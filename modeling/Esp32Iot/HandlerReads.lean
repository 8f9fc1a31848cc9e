import Esp32Iot.FrameReads
import Esp32Iot.MailboxCalls
import Esp32Iot.MessageFates

namespace Esp32Iot.HandlerReads

open Esp32Iot.AtomicCalls
open Esp32Iot.Communication
open Esp32Iot.Footprint
open Esp32Iot.FrameMessages
open Esp32Iot.FrameReads
open Esp32Iot.GpioEndpoint
open Esp32Iot.GuardedRun
open Esp32Iot.Mailbox
open Esp32Iot.MailboxCalls
open Esp32Iot.MessageFates

structure LogLine where
  format : String
  args : List Int
  deriving DecidableEq, Repr

structure LoggedRun where
  log : List LogLine
  run : HandlerRun
  deriving DecidableEq, Repr

/-- `vMessageHandler` with its reads through `pData` and its log output. -/
def vMessageHandlerReads (message : XMailboxMessage) : ByteReading LoggedRun := do
  let pin ← charCell 0
  let level ← charCell 1
  let received : LogLine := ⟨"Pin: %d, level: %d", [pin, level]⟩
  if message.messageType = gpioSetInput then do
    let logged ← charCell gpioNumberIndex
    pure ⟨[received, ⟨"Set %d pin to input", [logged]⟩], { calls := [], status := msgOk }⟩
  else if message.messageType = gpioSetHigh then do
    let logged ← charCell gpioNumberIndex
    let written ← charCell gpioNumberIndex
    pure ⟨[received, ⟨"Set %d pin HIGH", [logged]⟩],
      { calls := writeLevel written 1, status := msgOk }⟩
  else if message.messageType = gpioSetLow then do
    let logged ← charCell gpioNumberIndex
    let written ← charCell gpioNumberIndex
    pure ⟨[received, ⟨"Set %d pin LOW", [logged]⟩],
      { calls := writeLevel written 0, status := msgOk }⟩
  else if message.messageType = gpioReset then do
    let logged ← charCell gpioNumberIndex
    pure ⟨[received, ⟨"Reset %d pin", [logged]⟩], { calls := [], status := msgOk }⟩
  else
    pure ⟨[received], { calls := [], status := errUnsuportedMessageType }⟩

/-- The memory from `pData` on: the body, and what lies beyond it in the heap. -/
def bodyAt (data : List UInt8) (beyond : Nat → UInt8) (i : Nat) : UInt8 :=
  (data[i]?).getD (beyond i)

/-- Every index that is read is below the message's length, and what the handler
does and logs does not depend on the bytes beyond the body. -/
def WithinBody (message : XMailboxMessage) (data : List UInt8) : Prop :=
  (∀ beyond, ∀ i ∈ (vMessageHandlerReads message).footprint (bodyAt data beyond),
      (i : Int) < message.length) ∧
    ∀ beyond beyond', (vMessageHandlerReads message).value (bodyAt data beyond) =
      (vMessageHandlerReads message).value (bodyAt data beyond')

variable {message : XMailboxMessage} {data : List UInt8} {beyond beyond' : Nat → UInt8}

theorem run_vMessageHandlerReads (hdata : 0 < data.length) :
    ((vMessageHandlerReads message).value (bodyAt data beyond)).run =
      vMessageHandler message data := by
  have hpin : (charCell gpioNumberIndex).value (bodyAt data beyond) = gpioNumber data := by
    change (((data[0]?).getD (beyond 0)).toNat : Int) = ((data[0]?).getD 0).toNat
    rw [List.getElem?_eq_getElem hdata]
    rfl
  simp only [vMessageHandlerReads, vMessageHandler, Reading.value_bind]
  split
  · rfl
  · split
    · simp only [Reading.value_bind, Reading.value_pure, hpin]
    · split
      · simp only [Reading.value_bind, Reading.value_pure, hpin]
      · split <;> rfl

theorem mem_footprint (i : Nat) (m : Nat → UInt8) :
    i ∈ (vMessageHandlerReads message).footprint m ↔ i = 0 ∨ i = 1 := by
  have hbranch : ∀ rest : List Nat, (∀ j ∈ rest, j = 0) →
      (i ∈ [0] ++ ([1] ++ rest) ↔ i = 0 ∨ i = 1) := by
    intro rest hrest
    simp only [List.mem_append, List.mem_singleton]
    constructor
    · rintro (hi | hi | hi)
      · exact .inl hi
      · exact .inr hi
      · exact .inl (hrest i hi)
    · rintro (hi | hi)
      · exact .inl hi
      · exact .inr (.inl hi)
  simp only [vMessageHandlerReads, Reading.footprint_bind, footprint_charCell]
  apply hbranch
  -- every branch reads the pin number again, or nothing
  split
  · simp [gpioNumberIndex]
  · split
    · simp [gpioNumberIndex]
    · split
      · simp [gpioNumberIndex]
      · split <;> simp [gpioNumberIndex]

theorem bodyAt_of_lt {i : Nat} (hi : i < data.length) :
    bodyAt data beyond i = bodyAt data beyond' i := by
  simp only [bodyAt, List.getElem?_eq_getElem hi, Option.getD_some]

theorem withinBody_of_body (hbody : 2 ≤ message.length → 2 ≤ data.length) :
    WithinBody message data ↔ 2 ≤ message.length := by
  constructor
  · intro h
    have hsecond := h.1 (fun _ => 0) 1 ((mem_footprint 1 _).mpr (.inr rfl))
    omega
  · intro h
    have hlength := hbody h
    constructor
    · intro beyond i hi
      rcases (mem_footprint i _).mp hi with rfl | rfl <;> omega
    · intro beyond beyond'
      apply Reading.value_congr
      intro i hi
      apply bodyAt_of_lt
      rcases (mem_footprint i _).mp hi with rfl | rfl <;> omega

section Runs

variable {s s' : SharedState} {rx : List UInt8} {c : MailboxCalls.Call}
  {cs : List MailboxCalls.Call}

theorem handledOwn_displacement {frames : List (List UInt8)} :
    ∀ e ∈ displacement s, HandledOwn frames e := by
  intro e he
  unfold displacement at he
  split at he
  · cases he
  · simp only [List.mem_cons, List.not_mem_nil, or_false] at he
    rcases he with rfl | rfl | rfl <;> trivial

theorem handledOwn_step (h : ∀ e ∈ s.trace, HandledOwn s.frames e) (move : CallMove s c s') :
    ∀ e ∈ s'.trace, HandledOwn s'.frames e := by
  have hlater : ∀ bytes, ∀ e ∈ s.trace, HandledOwn (s.frames ++ [bytes]) e :=
    fun bytes e he => handledOwn_later (h e he)
  have hstored : ∀ bytes n, ∀ e ∈ s.trace ++ displacement s ++ [.sent n],
      HandledOwn (s.frames ++ [bytes]) e := by
    intro bytes n e he
    rcases List.mem_append.mp he with he | he
    · rcases List.mem_append.mp he with he | he
      · exact hlater bytes e he
      · exact handledOwn_displacement e he
    · cases List.mem_singleton.mp he
      trivial
  cases move with
  | refused bytes r₂ nonempty =>
      intro e he
      rcases List.mem_append.mp he with he | he
      · exact hlater bytes e he
      · cases List.mem_singleton.mp he
        trivial
  | unset bytes a s' set frames queue record trace =>
      rw [frames, trace]
      exact hstored bytes _
  | parsed bytes a b s' set complete frames queue stored trace =>
      rw [frames, trace]
      exact hstored bytes _
  | notMine => exact h
  | handled p frame pData s' pending stored arrived own frames queue trace =>
      rw [frames, trace]
      intro e he
      rcases List.mem_append.mp he with he | he
      · exact h e he
      · simp only [List.mem_cons, List.not_mem_nil, or_false] at he
        rcases he with rfl | rfl | rfl
        · exact ⟨frame, pData, arrived, (ownFrame_iff frame).mp own, rfl, rfl⟩
        · trivial
        · trivial

theorem handledOwn_run (run : Run MailboxCalls.step Allowed (vMailboxInit rx) cs s) :
    ∀ e ∈ s.trace, HandledOwn s.frames e := by
  refine run.invariant (P := fun u => ∀ e ∈ u.trace, HandledOwn u.frames e) ?_ ?_
  · intro e he
    cases he
  · intro _ u c v hbefore hu hallowed hstep
    exact handledOwn_step hu (step_move (mailboxInv_run hbefore) hallowed hstep)

theorem withinBody_iff (run : Run MailboxCalls.step Allowed (vMailboxInit rx) cs s)
    {endpointId : Int} {serial : Nat} {calls : List GpioDriver.GpioCall}
    (hhandled : .handled endpointId serial message data calls ∈ s.trace) :
    ∃ frame, s.frames[serial]? = some frame ∧ data = frameBody frame ∧
      message.length = frame.length - c11nMessageHeaderLength ∧
      (WithinBody message data ↔ 2 ≤ message.length) := by
  obtain ⟨frame, pData, hframe, -, rfl, rfl⟩ := handledOwn_run run _ hhandled
  have hlength : (frameMessage frame pData).length = frame.length - c11nMessageHeaderLength := rfl
  refine ⟨frame, hframe, rfl, hlength, withinBody_of_body ?_⟩
  intro h
  rw [hlength, c11nMessageHeaderLength] at h
  rw [frameBody, List.length_drop, c11nMessageHeaderLength]
  omega

end Runs

theorem withinBody_twoBytes :
    ∃ s frame, Run MailboxCalls.step Allowed (vMailboxInit [])
        [.frame [1, 0, 2, 7, 9] (some 0) (some 1), .poll] s ∧
      s.frames[0]? = some frame ∧ frameBody [1, 0, 2, 7, 9] = frameBody frame ∧
      (frameMessage [1, 0, 2, 7, 9] 1).length = frame.length - c11nMessageHeaderLength ∧
      (WithinBody (frameMessage [1, 0, 2, 7, 9] 1) (frameBody [1, 0, 2, 7, 9]) ↔
        2 ≤ (frameMessage [1, 0, 2, 7, 9] 1).length) := by
  obtain ⟨s, run, hhandled⟩ := Run.exists_of_exec_any MailboxCalls.step Allowed
    (vMailboxInit []) [.frame [1, 0, 2, 7, 9] (some 0) (some 1), .poll]
    (fun s => decide (.handled 1 0 (frameMessage [1, 0, 2, 7, 9] 1) (frameBody [1, 0, 2, 7, 9])
      (GpioEndpoint.writeLevel 7 1) ∈ s.trace)) (by decide)
  obtain ⟨frame, h⟩ := withinBody_iff run (of_decide_eq_true hhandled)
  exact ⟨s, frame, run, h⟩

/-- The body of a command is the number of its pin, one byte. The endpoint reads
and logs the byte behind it, here with two different values. -/
theorem logsBeyondBody :
    ∃ s, Run MailboxCalls.step Allowed (vMailboxInit [])
        [.frame [1, 0, 2, 7] (some 0) (some 1), .poll] s ∧
      .handled 1 0 (frameMessage [1, 0, 2, 7] 1) [7] (GpioEndpoint.writeLevel 7 1) ∈ s.trace ∧
      (frameMessage [1, 0, 2, 7] 1).length = 1 ∧
      ((vMessageHandlerReads (frameMessage [1, 0, 2, 7] 1)).value
          (bodyAt [7] fun _ => 0)).log.head? = some ⟨"Pin: %d, level: %d", [7, 0]⟩ ∧
      ((vMessageHandlerReads (frameMessage [1, 0, 2, 7] 1)).value
          (bodyAt [7] fun _ => 255)).log.head? = some ⟨"Pin: %d, level: %d", [7, 255]⟩ ∧
      ¬ WithinBody (frameMessage [1, 0, 2, 7] 1) [7] := by
  obtain ⟨s, run, hhandled⟩ := Run.exists_of_exec_any MailboxCalls.step Allowed
    (vMailboxInit []) [.frame [1, 0, 2, 7] (some 0) (some 1), .poll]
    (fun s => decide (.handled 1 0 (frameMessage [1, 0, 2, 7] 1) [7]
      (GpioEndpoint.writeLevel 7 1) ∈ s.trace)) (by decide)
  refine ⟨s, run, of_decide_eq_true hhandled, rfl, by decide, by decide, ?_⟩
  intro hwithin
  have hsecond := hwithin.1 (fun _ => 0) 1 ((mem_footprint 1 _).mpr (.inr rfl))
  exact absurd hsecond (by decide)

end Esp32Iot.HandlerReads
