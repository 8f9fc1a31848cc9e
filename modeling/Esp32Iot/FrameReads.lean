import Esp32Iot.AtomicCalls
import Esp32Iot.Footprint

namespace Esp32Iot.FrameReads

open Esp32Iot.AtomicCalls
open Esp32Iot.BlockHeap
open Esp32Iot.Communication
open Esp32Iot.Footprint
open Esp32Iot.Mailbox
open Esp32Iot.TaskSteps

/-- A computation on the bytes behind a pointer. -/
abbrev ByteReading := Reading Nat UInt8

/-- A `char` read through the pointer. -/
def charCell (i : Nat) : ByteReading Int := do
  let b ← Reading.cell i
  pure (b.toNat : Int)

structure Parsed where
  sizes : List Int
  pMessage : Option MsgPtr
  state : SharedState

def parseMessageReads (dataLen : Int) (r₁ r₂ : Option Nat) (s : SharedState) :
    ByteReading Parsed :=
  let dataLength := dataLen - c11nMessageHeaderLength
  match r₁ with
  | none => pure ⟨[sizeofXMailboxMessage], none, s⟩
  | some a =>
      let pMessage : MsgPtr := ⟨a, s.frames.length - 1⟩
      let heap := s.heap.alloc a pMessage.serial (.record none)
      match r₂ with
      | none => pure ⟨[sizeofXMailboxMessage, dataLength], some pMessage, { s with heap := heap }⟩
      | some pData => do
          let body ← Reading.cells
            ((List.range dataLength.toNat).map (c11nMessageHeaderLength + ·))
          let endpointId ← charCell c11nMessageHeaderEndpointIdIndex
          let messageType ← charCell c11nMessageHeaderMessageTypeIndex
          let messageId ← charCell c11nMessageHeaderMessageIdIndex
          let message : XMailboxMessage :=
            { onRecieve := .onMessageRecieved
              pData := pData
              length := dataLength
              messageId := messageId
              messageType := messageType
              endpointId := endpointId }
          pure ⟨[sizeofXMailboxMessage, dataLength, dataLength], some pMessage, { s with
            heap := (heap.alloc pData pMessage.serial (.body body)).write a
              (.record (some message)) }⟩

/-- The sizes, and the state after the call. -/
def sendDataToMailboxIncomingReads (dataLen : Int) (r₁ r₂ : Option Nat) (s : SharedState) :
    ByteReading (List Int × Option SharedState) := do
  let parsed ← parseMessageReads dataLen r₁ r₂ s
  match parsed.pMessage with
  | none => do
      let endpointId ← charCell c11nMessageHeaderEndpointIdIndex
      let messageId ← charCell c11nMessageHeaderMessageIdIndex
      pure (parsed.sizes, some (parsed.state.log
        (.refused (sendStatus endpointId messageId errNotEnoughMemory))))
  | some pMessage => pure (parsed.sizes, storeMessage pMessage parsed.state)

/-- The memory behind a pointer, of which the model knows the first bytes. -/
def bytesAt (memory : List UInt8) (i : Nat) : UInt8 := memory.getD i 0

def receiveDataReads (bytes : List UInt8) (r₁ r₂ : Option Nat) (s : SharedState) :
    ByteReading (List Int × Option SharedState) :=
  sendDataToMailboxIncomingReads bytes.length r₁ r₂ (readFrame bytes s)

variable {memory : List UInt8} {dataLen : Int} {r₁ r₂ : Option Nat} {s : SharedState}

@[simp] theorem value_charCell (i : Nat) :
    (charCell i).value (bytesAt memory) = charAt memory i := rfl

@[simp] theorem footprint_charCell (i : Nat) (m : Nat → UInt8) :
    (charCell i).footprint m = [i] := rfl

theorem map_bytesAt (offset n : Nat) (hn : offset + n ≤ memory.length) :
    ((List.range n).map (offset + ·)).map (bytesAt memory) = (memory.drop offset).take n := by
  apply List.ext_getElem
  · simp only [List.length_map, List.length_range, List.length_take, List.length_drop]
    omega
  · intro i hi hi'
    have hlt : offset + i < memory.length := by
      simp only [List.length_map, List.length_range] at hi
      omega
    simp [bytesAt, hlt]

/-- The model with accesses computes what `parseMessage` computes. -/
theorem value_parseMessageReads (hmemory : dataLen ≤ memory.length)
    (hbody : ∀ pData ∈ r₂, (c11nMessageHeaderLength : Int) ≤ dataLen) :
    ((parseMessageReads dataLen r₁ r₂ s).value (bytesAt memory)).pMessage =
        (parseMessage ⟨memory, dataLen⟩ r₁ r₂ s).1 ∧
      ((parseMessageReads dataLen r₁ r₂ s).value (bytesAt memory)).state =
        (parseMessage ⟨memory, dataLen⟩ r₁ r₂ s).2 := by
  rcases r₁ with _ | a
  · exact ⟨rfl, rfl⟩
  · rcases r₂ with _ | pData
    · exact ⟨rfl, rfl⟩
    · have hlength := hbody pData rfl
      have hbound : c11nMessageHeaderLength + (dataLen - c11nMessageHeaderLength).toNat ≤
          memory.length := by omega
      have hcopy := map_bytesAt _ _ hbound
      constructor
      · simp [parseMessageReads, parseMessage, mallocMessage, clone]
      · simp only [parseMessageReads, Reading.value_bind, Reading.value_cells, hcopy,
          value_charCell, Reading.value_pure]
        rfl

theorem value_sendDataToMailboxIncomingReads (hmemory : dataLen ≤ memory.length)
    (hbody : ∀ pData ∈ r₂, (c11nMessageHeaderLength : Int) ≤ dataLen) :
    ((sendDataToMailboxIncomingReads dataLen r₁ r₂ s).value (bytesAt memory)).2 =
      sendDataToMailboxIncoming ⟨memory, dataLen⟩ r₁ r₂ s := by
  obtain ⟨hpointer, hstate⟩ := @value_parseMessageReads memory dataLen r₁ r₂ s hmemory hbody
  unfold sendDataToMailboxIncomingReads
  rw [Reading.value_bind, hpointer]
  rcases hparse : parseMessage ⟨memory, dataLen⟩ r₁ r₂ s with ⟨_ | p, s₁⟩
  · rw [hparse] at hstate
    rw [sendDataToMailboxIncoming, hparse]
    simp only [Reading.value_bind, value_charCell, Reading.value_pure, hstate]
    rfl
  · rw [hparse] at hstate
    rw [sendDataToMailboxIncoming_of_parsed hparse]
    simp only [Reading.value_pure, hstate]

end Esp32Iot.FrameReads
