import Esp32Iot.TaskOwnership

namespace Esp32Iot.MessageFates

open Esp32Iot.BlockHeap
open Esp32Iot.Mailbox
open Esp32Iot.Communication
open Esp32Iot.GpioEndpoint
open Esp32Iot.GuardedRun
open Esp32Iot.Custody
open Esp32Iot.TaskSteps
open Esp32Iot.TaskHistory
open Esp32Iot.TaskOrder
open Esp32Iot.FrameMessages
open Esp32Iot.MessageMemory
open Esp32Iot.TaskOwnership

def answeredSerials (s : SharedState) : List Nat := s.trace.filterMap answeredSerial

def releasedSerials (s : SharedState) : List Nat := s.trace.filterMap releasedSerial

/-- No message is answered or released twice, and none is executed after it has
been answered. -/
structure CompletedOnce (s : SharedState) : Prop where
  answeredOnce : (answeredSerials s).Nodup
  releasedOnce : (releasedSerials s).Nodup
  notExecutedAfter : Ordered Unanswered s.trace

section Runs

variable {ι : Type*}

/-- A task has taken message `k` from the queue and has (or has not) answered it. -/
def InHands (s : State ι) (answered : Bool) (k : Nat) : Prop :=
  (∃ p, placed s (.websocket answered) = some p ∧ p.serial = k) ∨
    ∃ t p, placed s (.endpoint t answered) = some p ∧ p.serial = k

/-- Every message that has been sent is pending, about to be answered by the task
that took it, or answered and released as soon as that task goes on; and a
polling task resets the queue only when it holds the message it has peeked. -/
structure NothingLost (s : State ι) : Prop where
  accounted : ∀ k ∈ sentSerials s.shared,
    (∃ q, s.shared.xMailboxIncomingQueue = some q ∧ q.serial = k) ∨ InHands s false k ∨
      k ∈ answeredSerials s.shared ∧ (InHands s true k ∨ k ∈ releasedSerials s.shared)
  resetOwn : ∀ t p, s.endpoint t = .reset p → s.shared.xMailboxIncomingQueue = some p

def HandledOwn (frames : List (List UInt8)) : Event → Prop
  | .handled endpointId serial message data _ =>
      ∃ frame pData, frames[serial]? = some frame ∧ frameEndpointId frame = endpointId ∧
        message = frameMessage frame pData ∧ data = frameBody frame
  | _ => True

/-- The records that are compared are still allocated, and handlers see the
messages of their own endpoint. -/
structure ReadsOwn (s : State ι) : Prop where
  compared : ∀ t p, s.endpoint t = .compare p → Recorded s.shared p
  handled : ∀ e ∈ s.shared.trace, HandledOwn s.shared.frames e

variable [DecidableEq ι] {cfg : Endpoints ι} {rx : List UInt8} {as : List (Action ι)}
  {s : State ι}

theorem sentBound_building {s : SharedState} {pc : WebsocketPc} {p : MsgPtr}
    (hp : building pc = some p) : sentBound s pc = p.serial := by
  cases pc with
  | idle | mallocMessage | refuse | crashed => cases hp
  | _ =>
      cases hp
      rfl

section Ledger

variable {guard : State ι → Action ι → Prop}

theorem completedOnce_of_guard (run : Run (step cfg) guard (start rx) as s)
    (hguard : ∀ u a, guard u a → BodyCopied u a ∧ TakesAlone cfg u a) :
    CompletedOnce s.shared := by
  obtain ⟨-, ms, l, hledger, howns⟩ := owns_run run hguard
  have hinv := ledgerInv_run hledger
  refine ⟨?_, ?_, howns.unanswered⟩
  · rw [answeredSerials, ← howns.answered]
    exact hinv.answeredOnce
  · rw [releasedSerials, ← howns.removed]
    exact hinv.removedOnce

/-- Where a message is that has been sent. -/
theorem accounted_of_guard (run : Run (step cfg) guard (start rx) as s)
    (hguard : ∀ u a, guard u a → BodyCopied u a ∧ TakesAlone cfg u a) {k : Nat}
    (hk : k ∈ sentSerials s.shared) :
    (∃ q, s.shared.xMailboxIncomingQueue = some q ∧ q.serial = k) ∨ InHands s false k ∨
      k ∈ answeredSerials s.shared ∧ (InHands s true k ∨ k ∈ releasedSerials s.shared) := by
  obtain ⟨-, ms, l, hledger, howns⟩ := owns_run run hguard
  have hinv := ledgerInv_run hledger
  have hanswered : ∀ k ∈ l.answered, k ∈ answeredSerials s.shared := by
    intro k hk
    rw [howns.answered] at hk
    exact hk
  rcases hinv.accounted k (howns.sent k hk) with ⟨a, ha⟩ | hremoved
  · have hdone := hinv.answered a k ha
    rw [howns.held_eq] at ha
    obtain ⟨p, hp, rfl⟩ := Option.map_eq_some_iff.mp ha
    rcases a with _ | _ | (_ | _) | ⟨t, _ | _⟩
    · have hlt := (orderInv_run run).sent _ hk
      rw [sentBound_building hp] at hlt
      exact absurd hlt (Nat.lt_irrefl _)
    · exact .inl ⟨p, hp, rfl⟩
    · exact .inr (.inl (.inl ⟨p, hp, rfl⟩))
    · exact .inr (.inr ⟨hanswered _ (hdone.mpr rfl), .inl (.inl ⟨p, hp, rfl⟩)⟩)
    · exact .inr (.inl (.inr ⟨t, p, hp, rfl⟩))
    · exact .inr (.inr ⟨hanswered _ (hdone.mpr rfl), .inl (.inr ⟨t, p, hp, rfl⟩)⟩)
  · refine .inr (.inr ⟨hanswered k (hinv.removedAnswered k hremoved), .inr ?_⟩)
    rw [releasedSerials, ← howns.removed]
    exact hremoved

end Ledger

theorem completedOnce_run
    (run : Run (step cfg) (fun s a => WellFormed s a ∧ TakesAlone cfg s a) (start rx) as s) :
    CompletedOnce s.shared :=
  completedOnce_of_guard run fun _ _ hua => ⟨hua.1.bodyCopied, hua.2⟩

theorem completedOnce_polled :
    ∃ s, Run (step gpioEndpoints) (fun s a => WellFormed s a ∧ TakesAlone gpioEndpoints s a)
      (start []) (storeFrame [1, 0, 2, 7] 0 1 ++ endpointSteps () 8 ++
        storeFrame [1, 1, 3, 7] 0 1 ++ displaceFrame [1, 2, 2, 7] 2 3) s ∧
      CompletedOnce s.shared := by
  obtain ⟨s, run⟩ := Run.exists_of_exec (step gpioEndpoints)
    (fun s a => WellFormed s a ∧ TakesAlone gpioEndpoints s a) (start [])
    (storeFrame [1, 0, 2, 7] 0 1 ++ endpointSteps () 8 ++
      storeFrame [1, 1, 3, 7] 0 1 ++ displaceFrame [1, 2, 2, 7] 2 3) (by decide)
  exact ⟨s, run, completedOnce_run run⟩

/-- The endpoint has peeked and compared message 0 when the websocket task
displaces it and sends `ERR_NOT_RECIEVED`; then the endpoint executes the
command and sends `MSG_OK`. No undefined read is involved. -/
theorem completedTwice :
    ∃ s, Run (step gpioEndpoints) WellFormed (start [])
      (storeFrame [1, 0, 2, 7] 0 1 ++ endpointSteps () 3 ++
        .frame [1, 1, 3, 7] ::
          websocketSteps [some 2, some 3, none, none, none, none] ++
        endpointSteps () 3) s ∧
      s.shared.trace = [.sent 0, .displaced 0, .answered 0 errNotRecieved [1, 2, 0],
        .handled 1 0 (frameMessage [1, 0, 2, 7] 1) [7] (writeLevel 7 1),
        .answered 0 msgOk [1, 0, 0]] ∧
      ¬ CompletedOnce s.shared := by
  obtain ⟨s, run, htrace⟩ := Run.exists_of_exec_any (step gpioEndpoints) WellFormed (start [])
    (storeFrame [1, 0, 2, 7] 0 1 ++ endpointSteps () 3 ++
      .frame [1, 1, 3, 7] ::
        websocketSteps [some 2, some 3, none, none, none, none] ++
      endpointSteps () 3)
    (fun s => decide (s.shared.trace = [.sent 0, .displaced 0,
      .answered 0 errNotRecieved [1, 2, 0],
      .handled 1 0 (frameMessage [1, 0, 2, 7] 1) [7] (writeLevel 7 1),
      .answered 0 msgOk [1, 0, 0]])) (by decide)
  have htrace := of_decide_eq_true htrace
  refine ⟨s, run, htrace, ?_⟩
  intro hcompleted
  have honce := hcompleted.answeredOnce
  rw [answeredSerials, htrace] at honce
  exact absurd honce (by decide)

theorem nothingLost_run
    (run : Run (step cfg) (fun s a => WellFormed s a ∧ TakesAlone cfg s a) (start rx) as s) :
    NothingLost s := by
  have hguard : ∀ u a, WellFormed u a ∧ TakesAlone cfg u a → BodyCopied u a ∧ TakesAlone cfg u a :=
    fun _ _ hua => ⟨hua.1.bodyCopied, hua.2⟩
  refine ⟨fun k hk => accounted_of_guard run hguard hk, ?_⟩
  intro t p hpc
  have htask := (owns_run run hguard).1.task t
  rw [hpc] at htask
  exact htask.2

theorem nothingLost_polled :
    ∃ s, Run (step gpioEndpoints) (fun s a => WellFormed s a ∧ TakesAlone gpioEndpoints s a)
      (start []) (storeFrame [1, 0, 2, 7] 0 1 ++ endpointSteps () 1 ++
        displaceFrame [1, 1, 3, 7] 2 3 ++ endpointSteps () 4) s ∧ NothingLost s := by
  obtain ⟨s, run⟩ := Run.exists_of_exec (step gpioEndpoints)
    (fun s a => WellFormed s a ∧ TakesAlone gpioEndpoints s a) (start [])
    (storeFrame [1, 0, 2, 7] 0 1 ++ endpointSteps () 1 ++
      displaceFrame [1, 1, 3, 7] 2 3 ++ endpointSteps () 4) (by decide)
  exact ⟨s, run, nothingLost_run run⟩

/-- The endpoint has peeked and compared message 0 when the websocket task
displaces it and sends message 1; the endpoint's reset discards message 1. -/
theorem successorLost :
    ∃ s, Run (step gpioEndpoints) WellFormed (start [])
      (storeFrame [1, 0, 2, 7] 0 1 ++ endpointSteps () 3 ++
        displaceFrame [1, 1, 3, 7] 2 3 ++ endpointSteps () 1) s ∧
      s.shared.trace = [.sent 0, .displaced 0, .answered 0 errNotRecieved [1, 2, 0],
        .released 0, .sent 1] ∧
      s.shared.xMailboxIncomingQueue = none ∧ ¬ NothingLost s := by
  obtain ⟨s, run, htest⟩ := Run.exists_of_exec_any (step gpioEndpoints) WellFormed (start [])
    (storeFrame [1, 0, 2, 7] 0 1 ++ endpointSteps () 3 ++
      displaceFrame [1, 1, 3, 7] 2 3 ++ endpointSteps () 1)
    (fun s => decide (s.shared.trace = [.sent 0, .displaced 0,
        .answered 0 errNotRecieved [1, 2, 0], .released 0, .sent 1] ∧
      s.shared.xMailboxIncomingQueue = none ∧ s.websocket = .idle ∧
      s.endpoint () = .handle ⟨0, 0⟩)) (by decide)
  obtain ⟨htrace, hqueue, hwebsocket, hendpoint⟩ := of_decide_eq_true htest
  refine ⟨s, run, htrace, hqueue, ?_⟩
  intro hnothing
  have hsent : 1 ∈ sentSerials s.shared := by
    rw [sentSerials, htrace]
    decide
  rcases hnothing.accounted 1 hsent with ⟨q, hq, -⟩ | hhands | ⟨hanswered, -⟩
  · rw [hqueue] at hq
    cases hq
  · rcases hhands with ⟨p, hp, -⟩ | ⟨t, p, hp, hserial⟩
    · simp [placed, hwebsocket, displacing] at hp
    · simp only [placed, hendpoint, taken, endpointReplied, if_true, Option.some.injEq] at hp
      subst p
      cases hserial
  · rw [answeredSerials, htrace] at hanswered
    exact absurd hanswered (by decide)

theorem handledOwn_later {frames : List (List UInt8)} {bytes : List UInt8} {e : Event}
    (h : HandledOwn frames e) : HandledOwn (frames ++ [bytes]) e := by
  cases e with
  | handled id serial message data calls =>
      obtain ⟨frame, pData, hserial, hid, hmessage, hdata⟩ := h
      exact ⟨frame, pData, frame_later hserial, hid, hmessage, hdata⟩
  | _ => trivial

theorem handledOwn_of_not_isHandled {frames : List (List UInt8)} {e : Event}
    (he : isHandled e = false) : HandledOwn frames e := by
  cases e with
  | handled => cases he
  | _ => trivial

theorem readsOwn_run
    (run : Run (step cfg) (fun s a => BodyCopied s a ∧ TakesAlone cfg s a) (start rx) as s) :
    ReadsOwn s := by
  have hmemory : ∀ {bs u}, Run (step cfg) (fun s a => BodyCopied s a ∧ TakesAlone cfg s a)
      (start rx) bs u → MemoryInv cfg u := fun hrun => (owns_run hrun fun _ _ hua => hua).1
  refine ⟨?_, handled_run run (fun _ _ => handledOwn_of_not_isHandled)
    (fun _ _ _ => handledOwn_later) ?_⟩
  · intro t p hpc
    have htask := (hmemory run).task t
    rw [hpc] at htask
    exact htask.1
  · rintro bs u t env p message data hbefore - hpc rfl rfl
    have htask := (hmemory hbefore).task t
    rw [hpc] at htask
    obtain ⟨⟨frame, hframe, hid⟩, hstored⟩ := htask
    obtain ⟨frame', pData, hframe', hmessage, hdata, -⟩ := hstored.read env
    cases hframe.symm.trans hframe'
    exact ⟨frame, pData, hframe, hid, hmessage, hdata⟩

theorem readsOwn_reused :
    ∃ s, Run (step gpioEndpoints) (fun s a => BodyCopied s a ∧ TakesAlone gpioEndpoints s a)
      (start []) (storeFrame [1, 0, 2, 7] 0 1 ++ endpointSteps () 8 ++
        storeFrame [2, 1, 3, 7] 0 1 ++ endpointSteps () 3) s ∧ ReadsOwn s := by
  obtain ⟨s, run⟩ := Run.exists_of_exec (step gpioEndpoints)
    (fun s a => BodyCopied s a ∧ TakesAlone gpioEndpoints s a) (start [])
    (storeFrame [1, 0, 2, 7] 0 1 ++ endpointSteps () 8 ++
      storeFrame [2, 1, 3, 7] 0 1 ++ endpointSteps () 3) (by decide)
  exact ⟨s, run, readsOwn_run run⟩

/-- Message 0 is displaced and released after the GPIO endpoint has compared it,
and its addresses are handed out again to message 2, which is for endpoint 2. The
GPIO endpoint executes that message. -/
theorem otherEndpointHandled :
    ∃ s, Run (step gpioEndpoints) WellFormed (start [])
      (storeFrame [1, 0, 2, 7] 0 1 ++ endpointSteps () 3 ++
        displaceFrame [1, 1, 3, 7] 2 3 ++ displaceFrame [2, 2, 2, 9] 0 1 ++
        endpointSteps () 2) s ∧
      .handled gpioEndpointId 0 (frameMessage [2, 2, 2, 9] 1) [9] (writeLevel 9 1) ∈
        s.shared.trace ∧
      ¬ ReadsOwn s := by
  obtain ⟨s, run, htest⟩ := Run.exists_of_exec_any (step gpioEndpoints) WellFormed (start [])
    (storeFrame [1, 0, 2, 7] 0 1 ++ endpointSteps () 3 ++
      displaceFrame [1, 1, 3, 7] 2 3 ++ displaceFrame [2, 2, 2, 9] 0 1 ++
      endpointSteps () 2)
    (fun s => decide (s.shared.frames = [[1, 0, 2, 7], [1, 1, 3, 7], [2, 2, 2, 9]] ∧
      .handled gpioEndpointId 0 (frameMessage [2, 2, 2, 9] 1) [9] (writeLevel 9 1) ∈
        s.shared.trace)) (by decide)
  obtain ⟨hframes, hmem⟩ := of_decide_eq_true htest
  refine ⟨s, run, hmem, ?_⟩
  intro hreads
  obtain ⟨frame, pData, hframe, -, -, hdata⟩ := hreads.handled _ hmem
  rw [hframes] at hframe
  cases hframe
  exact absurd hdata (by decide)

end Runs

end Esp32Iot.MessageFates
