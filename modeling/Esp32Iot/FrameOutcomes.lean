import Esp32Iot.FrameReads
import Esp32Iot.MailboxCalls

namespace Esp32Iot.FrameOutcomes

open Esp32Iot.BlockHeap
open Esp32Iot.Communication
open Esp32Iot.Footprint
open Esp32Iot.FrameMessages
open Esp32Iot.FrameReads
open Esp32Iot.GuardedRun
open Esp32Iot.Mailbox
open Esp32Iot.MailboxCalls
open Esp32Iot.MessageMemory
open Esp32Iot.TaskSteps
open Esp32Iot.UndisturbedCalls

def Entered (bytes : List UInt8) (s' : SharedState) : Prop :=
  ∃ p pData, s'.xMailboxIncomingQueue = some p ∧
    s'.message? p = some (frameMessage bytes pData) ∧
    s'.body? pData = some (frameBody bytes)

/-- The frame has been answered for want of memory, once, and that is all. -/
structure Refused (bytes : List UInt8) (s s' : SharedState) : Prop where
  queue : s'.xMailboxIncomingQueue = s.xMailboxIncomingQueue
  heap : s'.heap = s.heap
  reply : s'.trace = s.trace ++
    [.refused (sendStatus (charAt bytes 0) (charAt bytes 1) errNotEnoughMemory)]

/-- The frame is stored if both allocations succeed, and refused if one fails; in
neither case is there a message with unset fields afterwards. -/
def CleanOutcome (s : SharedState) (bytes : List UInt8) (r₁ r₂ : Option Nat) : Prop :=
  ∃ s', receiveData bytes r₁ r₂ s = some s' ∧
    (if r₁.isSome && r₂.isSome then Entered bytes s' else Refused bytes s s') ∧
    PendingSet s'

def HoldsFrame (bytes : List UInt8) (s' : SharedState) : Prop :=
  ∃ p message, s'.xMailboxIncomingQueue = some p ∧ s'.message? p = some message ∧
    message.endpointId = charAt bytes 0 ∧ message.messageId = charAt bytes 1 ∧
    message.messageType = charAt bytes 2 ∧ message.length = bytes.length - 3 ∧
    (bytes.drop 3 ≠ [] → s'.body? message.pData = some (bytes.drop 3))

structure Rejected (s s' : SharedState) : Prop where
  queue : s'.xMailboxIncomingQueue = s.xMailboxIncomingQueue
  record : ∀ q, s.xMailboxIncomingQueue = some q → s'.message? q = s.message? q

/-- The frame is stored or rejected by its length, no byte behind it is read, and
no size is negative. -/
def ExactOutcome (s : SharedState) (bytes : List UInt8) (r₁ r₂ : Option Nat) : Prop :=
  ∃ sizes s',
    (receiveDataReads bytes r₁ r₂ s).value (bytesAt (readFrame bytes s).rxBuffer) =
        (sizes, some s') ∧
      (3 ≤ bytes.length → HoldsFrame bytes s') ∧ (bytes.length < 3 → Rejected s s') ∧
      (∀ i ∈ (receiveDataReads bytes r₁ r₂ s).footprint
        (bytesAt (readFrame bytes s).rxBuffer), i < bytes.length) ∧
      ∀ size ∈ sizes, 0 ≤ size

def MemoryAvailable (bytes : List UInt8) (r₁ r₂ : Option Nat) : Prop :=
  r₁.isSome = true ∧ (FrameComplete bytes → r₂.isSome = true)

section Outcomes

variable {s s' : SharedState} {bytes rx : List UInt8} {a b : Nat} {r₁ r₂ : Option Nat}
  {cs : List Call}

theorem refused_of_frameComplete (hframe : FrameComplete bytes) :
    Refused bytes s (refuseMessage (dataEvent (readFrame bytes s) bytes.length)
      (readFrame bytes s)) := by
  have hlength : 3 < bytes.length := hframe
  rw [refuseMessage_readFrame (by omega)]
  exact ⟨rfl, rfl, rfl⟩

theorem entered_of_stored (hframes : s'.frames = s.frames ++ [bytes])
    (hqueue : s'.xMailboxIncomingQueue = some ⟨a, s.frames.length⟩)
    (hstored : Stored s' ⟨a, s.frames.length⟩) : Entered bytes s' ∧ PendingSet s' := by
  have hnewest : s'.frames[s.frames.length]? = some bytes := by
    rw [hframes]
    simp
  obtain ⟨pData, hmessage, hbody⟩ := hstored.contents hnewest
  refine ⟨⟨_, pData, hqueue, hmessage, hbody⟩, ?_⟩
  intro q hq
  cases hqueue.symm.trans hq
  exact message_of_stored hstored

theorem cleanOutcome_iff (run : Run step Allowed (vMailboxInit rx) cs s)
    (hframe : FrameComplete bytes)
    (hallowed : MallocsAllow (readFrame bytes s) bytes.length r₁ r₂) :
    CleanOutcome s bytes r₁ r₂ ↔ PendingSet s ∧ (r₁ = none ∨ r₂.isSome = true) := by
  have hinv := mailboxInv_run run
  have hnonempty : bytes ≠ [] := by
    rintro rfl
    exact absurd hframe (by decide)
  constructor
  · rintro ⟨s', hreceive, -, hset⟩
    have hmove : CallMove s (.frame bytes r₁ r₂) s' :=
      step_move hinv ⟨hnonempty, hallowed⟩ hreceive
    cases hmove with
    | refused bytes r₂ nonempty => exact ⟨hset, .inl rfl⟩
    | unset bytes a s' set frames queue record trace =>
        exact absurd hset (not_pendingSet queue record)
    | parsed bytes a b s' set complete frames queue stored trace => exact ⟨set, .inr rfl⟩
  · rintro ⟨hset, hresults⟩
    rcases r₁ with _ | a
    · refine ⟨_, receiveData_refused, ?_, hset⟩
      exact refused_of_frameComplete hframe
    · rcases r₂ with _ | b
      · simp at hresults
      · obtain ⟨s', hreceive, hframes, hqueue, hstored, -⟩ :=
          receiveData_parsed hallowed (hinv.stored hset)
        exact ⟨s', hreceive, entered_of_stored hframes hqueue hstored⟩

theorem cleanOutcome_displacing :
    ∃ s, Run step Allowed (vMailboxInit []) [.frame [1, 0, 2, 7] (some 0) (some 1)] s ∧
      CleanOutcome s [1, 1, 3, 7] none (some 2) := by
  obtain ⟨s, run, hqueue⟩ := Run.exists_of_exec_any step Allowed (vMailboxInit [])
    [.frame [1, 0, 2, 7] (some 0) (some 1)]
    (fun s => decide (s.xMailboxIncomingQueue = some ⟨0, 0⟩ ∧
      (s.message? ⟨0, 0⟩).isSome = true ∧
      MallocsAllow (readFrame [1, 1, 3, 7] s) 4 none (some 2))) (by decide)
  obtain ⟨hqueue, hset, hallowed⟩ := of_decide_eq_true hqueue
  refine ⟨s, run, (cleanOutcome_iff run (by decide) hallowed).mpr ⟨?_, .inl rfl⟩⟩
  intro q hq
  cases hqueue.symm.trans hq
  exact hset

/-- Message 0 is pending when the copy of the body of frame 1 fails. No refusal is
sent; message 0 is answered and released, and a record without fields takes its place. -/
theorem uncleanOutcome :
    ∃ s s', Run step Allowed (vMailboxInit []) [.frame [1, 0, 2, 7] (some 0) (some 1)] s ∧
      receiveData [1, 1, 3, 7] (some 2) none s = some s' ∧
      s'.trace = [.sent 0, .displaced 0, .answered 0 errNotRecieved [1, 2, 0], .released 0,
        .sent 1] ∧
      s'.xMailboxIncomingQueue = some ⟨2, 1⟩ ∧ s'.message? ⟨2, 1⟩ = none ∧
      ¬ CleanOutcome s [1, 1, 3, 7] (some 2) none := by
  obtain ⟨s, run, htest⟩ := Run.exists_of_exec_any step Allowed (vMailboxInit [])
    [.frame [1, 0, 2, 7] (some 0) (some 1)]
    (fun s => (receiveData [1, 1, 3, 7] (some 2) none s).any fun s' : SharedState =>
      decide (s'.trace = [.sent 0, .displaced 0, .answered 0 errNotRecieved [1, 2, 0],
          .released 0, .sent 1] ∧
        s'.xMailboxIncomingQueue = some ⟨2, 1⟩ ∧ s'.message? ⟨2, 1⟩ = none)) (by decide)
  obtain ⟨s', hreceive, hs'⟩ := (Option.any_eq_true _ _).mp htest
  obtain ⟨htrace, hqueue, hunset⟩ := of_decide_eq_true hs'
  refine ⟨s, s', run, hreceive, htrace, hqueue, hunset, ?_⟩
  rintro ⟨s₁, hreceive₁, -, hset⟩
  cases hreceive.symm.trans hreceive₁
  have hsome := hset _ hqueue
  rw [hunset] at hsome
  cases hsome

theorem value_receiveDataReads
    (hallowed : MallocsAllow (readFrame bytes s) bytes.length r₁ r₂) :
    ((receiveDataReads bytes r₁ r₂ s).value (bytesAt (readFrame bytes s).rxBuffer)).2 =
      receiveData bytes r₁ r₂ s := by
  refine value_sendDataToMailboxIncomingReads ?_ ?_
  · simp only [readFrame, List.length_append]
    omega
  · rintro b rfl
    have hcomplete : 3 < bytes.length := frameComplete_of_allowed hallowed
    change (3 : Int) ≤ bytes.length
    omega

theorem accesses_of_frameComplete (hframe : FrameComplete bytes) :
    (∀ i ∈ (receiveDataReads bytes (some a) (some b) s).footprint
        (bytesAt (readFrame bytes s).rxBuffer), i < bytes.length) ∧
      ∀ size ∈ ((receiveDataReads bytes (some a) (some b) s).value
        (bytesAt (readFrame bytes s).rxBuffer)).1, 0 ≤ size := by
  have hlength : 3 < bytes.length := hframe
  constructor
  · intro i hi
    simp only [receiveDataReads, sendDataToMailboxIncomingReads, parseMessageReads,
      Reading.footprint_bind, Reading.footprint_cells, footprint_charCell, Reading.value_bind,
      Reading.value_pure, Reading.footprint_pure, List.mem_append, List.mem_map, List.mem_range,
      List.mem_singleton, c11nMessageHeaderLength, c11nMessageHeaderEndpointIdIndex,
      c11nMessageHeaderMessageIdIndex, c11nMessageHeaderMessageTypeIndex, List.append_nil] at hi
    rcases hi with ⟨j, hj, rfl⟩ | rfl | rfl | rfl <;> omega
  · intro size hsize
    simp only [receiveDataReads, sendDataToMailboxIncomingReads, parseMessageReads,
      Reading.value_bind, Reading.value_pure, List.mem_cons, List.not_mem_nil, or_false,
      sizeofXMailboxMessage, c11nMessageHeaderLength] at hsize
    rcases hsize with rfl | rfl | rfl <;> omega

theorem holdsFrame_of_entered (h : Entered bytes s') : HoldsFrame bytes s' := by
  obtain ⟨p, pData, hqueue, hmessage, hbody⟩ := h
  exact ⟨p, _, hqueue, hmessage, rfl, rfl, rfl, rfl, fun _ => hbody⟩

theorem exactOutcome_iff (run : Run step Allowed (vMailboxInit rx) cs s) (hbytes : bytes ≠ [])
    (hallowed : MallocsAllow (readFrame bytes s) bytes.length r₁ r₂)
    (hmemory : MemoryAvailable bytes r₁ r₂) :
    ExactOutcome s bytes r₁ r₂ ↔ PendingSet s ∧ 4 ≤ bytes.length := by
  have hinv := mailboxInv_run run
  have hvalue := value_receiveDataReads hallowed
  constructor
  · rintro ⟨sizes, s', hreads, hholds, hrejected, -, -⟩
    rw [hreads] at hvalue
    have hmove : CallMove s (.frame bytes r₁ r₂) s' :=
      step_move hinv ⟨hbytes, hallowed⟩ hvalue.symm
    cases hmove with
    | refused bytes r₂ nonempty => cases hmemory.1
    | parsed bytes a b s' set complete frames queue stored trace => exact ⟨set, complete⟩
    | unset bytes a s' set frames queue record trace =>
        exfalso
        by_cases hheader : 3 ≤ bytes.length
        · obtain ⟨p, message, hqueue, hmessage, -⟩ := hholds hheader
          cases queue.symm.trans hqueue
          cases record.message.symm.trans hmessage
        · have hsame := (hrejected (by omega)).queue
          rw [queue] at hsame
          obtain ⟨frame, -, hframe, -⟩ := hinv.stored set _ hsame.symm
          exact absurd (List.getElem?_eq_some_iff.mp hframe).1 (Nat.lt_irrefl _)
  · rintro ⟨hset, hlength⟩
    have hframe : FrameComplete bytes := hlength
    obtain ⟨a, rfl⟩ := Option.isSome_iff_exists.mp hmemory.1
    obtain ⟨b, rfl⟩ := Option.isSome_iff_exists.mp (hmemory.2 hframe)
    obtain ⟨s', hreceive, hframes, hqueue, hstored, -⟩ :=
      receiveData_parsed hallowed (hinv.stored hset)
    obtain ⟨hreads, hsizes⟩ := accesses_of_frameComplete (a := a) (b := b) (s := s) hframe
    refine ⟨_, s', Prod.ext rfl (hvalue.trans hreceive), ?_, ?_, hreads, hsizes⟩
    · intro _
      exact holdsFrame_of_entered (entered_of_stored hframes hqueue hstored).1
    · intro hshort
      omega

theorem exactOutcome_stored :
    ExactOutcome (vMailboxInit [9, 9, 9, 9, 9, 9]) [1, 0, 2, 7] (some 0) (some 1) := by
  refine (exactOutcome_iff .nil (by decide) (by decide) ?_).mpr ⟨?_, by decide⟩
  · exact ⟨rfl, fun _ => rfl⟩
  · rintro q ⟨⟩

/-- A frame that is only a header, with memory available: `malloc(0)` returns no
block, and a record without fields is queued. A frame of one byte makes `malloc`
be asked for `-2` bytes, and is queued as well. -/
theorem inexactOutcome :
    (receiveData [1, 0, 2] (some 0) none (vMailboxInit [])).any
        (fun s' => decide (s'.xMailboxIncomingQueue = some ⟨0, 0⟩ ∧
          s'.message? ⟨0, 0⟩ = none)) = true ∧
      ¬ ExactOutcome (vMailboxInit []) [1, 0, 2] (some 0) none ∧
      ((receiveDataReads [1] (some 0) none (vMailboxInit [])).value (bytesAt [1])).1 =
        [24, -2] ∧
      ¬ ExactOutcome (vMailboxInit []) [1] (some 0) none := by
  refine ⟨by decide, ?_, by decide, ?_⟩
  · rintro ⟨sizes, s', hreads, hholds, -⟩
    cases hreads
    obtain ⟨p, message, hqueue, hmessage, -⟩ := hholds (by decide)
    cases hqueue
    cases hmessage
  · rintro ⟨sizes, s', hreads, -, hrejected, -⟩
    cases hreads
    cases (hrejected (by decide)).queue

end Outcomes

end Esp32Iot.FrameOutcomes
