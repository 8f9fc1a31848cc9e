import Esp32Iot.UndisturbedCalls

namespace Esp32Iot.MailboxCalls

open Esp32Iot.AtomicCalls
open Esp32Iot.BlockHeap
open Esp32Iot.Communication
open Esp32Iot.FrameMessages
open Esp32Iot.GpioEndpoint
open Esp32Iot.GuardedRun
open Esp32Iot.Mailbox
open Esp32Iot.MessageMemory
open Esp32Iot.TaskSteps
open Esp32Iot.UndisturbedCalls

/-- A data event with the results of its two calls of `malloc`, or a poll of the
GPIO endpoint. -/
inductive Call
  | frame (bytes : List UInt8) (r₁ r₂ : Option Nat)
  | poll

def step (s : SharedState) : Call → Option SharedState
  | .frame bytes r₁ r₂ => receiveData bytes r₁ r₂ s
  | .poll => vEndpointTaskGPIO s

/-- The results are such as `malloc` may return. -/
def Allowed (s : SharedState) : Call → Prop
  | .frame bytes r₁ r₂ => bytes ≠ [] ∧ MallocsAllow (readFrame bytes s) bytes.length r₁ r₂
  | .poll => True

instance (s : SharedState) (len : Int) (r₁ r₂ : Option Nat) :
    Decidable (MallocsAllow s len r₁ r₂) :=
  decidable_of_iff
    (s.heap.MallocAllows sizeofXMailboxMessage r₁ ∧
      (mallocMessage r₁ s).2.heap.MallocAllows (dataEvent s len).dataLength r₂)
    ⟨fun h => ⟨h.1, h.2⟩, fun h => ⟨h.1, h.2⟩⟩

instance (s : SharedState) : (c : Call) → Decidable (Allowed s c)
  | .frame _ _ _ => inferInstanceAs (Decidable (_ ∧ _))
  | .poll => inferInstanceAs (Decidable True)

/-- The record of a message is allocated, and its fields have not been set. -/
def Unset (s : SharedState) (p : MsgPtr) : Prop :=
  s.heap.Holds p.addr p.serial (.record none)

/-- The fields of the pending message, if there is one, have been set. -/
def PendingSet (s : SharedState) : Prop :=
  ∀ q, s.xMailboxIncomingQueue = some q → (s.message? q).isSome = true

def MailboxInv (s : SharedState) : Prop :=
  ∀ q, s.xMailboxIncomingQueue = some q →
    Stored s q ∨ Unset s q ∧ q.serial < s.frames.length

/-- What a new message makes of the pending one. -/
def displacement (s : SharedState) : List Event :=
  match s.xMailboxIncomingQueue with
  | none => []
  | some q =>
      [.displaced q.serial,
        .answered q.serial errNotRecieved
          (replyTo (s.frames[q.serial]?.getD []) errNotRecieved),
        .released q.serial]

section Messages

variable {s s' : SharedState} {p q : MsgPtr}

theorem Unset.message (h : Unset s p) : s.message? p = none :=
  SharedState.message_of_holds h

theorem message_of_stored (h : Stored s p) : (s.message? p).isSome = true := by
  obtain ⟨frame, pData, -, hmessage⟩ := h.recorded.message
  rw [hmessage]
  rfl

theorem MailboxInv.stored (h : MailboxInv s) (hset : PendingSet s) :
    ∀ q, s.xMailboxIncomingQueue = some q → Stored s q := by
  intro q hq
  rcases h q hq with hstored | ⟨hunset, -⟩
  · exact hstored
  · have hsome := hset q hq
    rw [hunset.message] at hsome
    cases hsome

theorem not_pendingSet (hq : s.xMailboxIncomingQueue = some q) (hunset : Unset s q) :
    ¬ PendingSet s := by
  intro hset
  have hsome := hset q hq
  rw [hunset.message] at hsome
  cases hsome

theorem pendingSet_or_unset (h : MailboxInv s) :
    PendingSet s ∨ ∃ q, s.xMailboxIncomingQueue = some q ∧ Unset s q ∧
      q.serial < s.frames.length := by
  by_cases hset : PendingSet s
  · exact .inl hset
  · simp only [PendingSet, not_forall] at hset
    obtain ⟨q, hq, hnot⟩ := hset
    rcases h q hq with hstored | hunset
    · exact absurd (message_of_stored hstored) hnot
    · exact .inr ⟨q, hq, hunset⟩

end Messages

section Calls

variable {s s' : SharedState} {p q : MsgPtr} {bytes : List UInt8} {a : Nat} {r₁ r₂ : Option Nat}

/-- A message that has been parsed enters the queue, and completes the pending one. -/
theorem storeMessage_stored (hqueue : ∀ q, s.xMailboxIncomingQueue = some q → Stored s q) :
    ∃ s', storeMessage p s = some s' ∧ s'.xMailboxIncomingQueue = some p ∧
      s'.frames = s.frames ∧
      (∀ k, (∀ q, s.xMailboxIncomingQueue = some q → k ≠ q.serial) →
        Heap.Keeps k s.heap s'.heap) ∧
      s'.trace = s.trace ++ displacement s ++ [.sent p.serial] := by
  cases hpending : s.xMailboxIncomingQueue with
  | none =>
      refine ⟨_, storeMessage_empty hpending, rfl, rfl, fun _ _ => Heap.Keeps.refl, ?_⟩
      simp [displacement, hpending, SharedState.log]
  | some q =>
      have hstored := hqueue q hpending
      obtain ⟨frame, -, hframe, -⟩ := id hstored
      obtain ⟨s', hstore, hqueue', hothers, htrace⟩ :=
        storeMessage_displacing (p := p) hpending hstored hframe
      refine ⟨s', hstore, hqueue', hothers.frames, ?_, ?_⟩
      · intro k hk
        exact hothers.heap k (hk q rfl)
      · rw [htrace]
        simp [displacement, hpending, hframe]

theorem storeMessage_unset (hq : s.xMailboxIncomingQueue = some q)
    (hunset : s.message? q = none) : storeMessage p s = none := by
  have hcall : ∀ status, callOnRecieve q status
      ({ s with xMailboxIncomingQueue := none }.log (.displaced q.serial)) = none := by
    intro status
    have hmessage : ({ s with xMailboxIncomingQueue := none }.log
        (.displaced q.serial)).message? q = none := hunset
    rw [callOnRecieve, hmessage]
    rfl
  rw [storeMessage, if_pos (by simp [hq])]
  simp only [receivePending, xQueueReceive, hq, hcall, Option.map_none]

/-- A message whose body has been copied has at least one byte of body. -/
theorem frameComplete_of_allowed {b : Nat}
    (h : MallocsAllow (readFrame bytes s) bytes.length r₁ (some b)) : FrameComplete bytes :=
  (current_readFrame (s := s)).frameComplete h.body.1

theorem fresh_of_allowed
    (h : MallocsAllow (readFrame bytes s) bytes.length (some a) r₂) : s.heap.isLive a = false :=
  h.message.2

theorem body_fresh_of_allowed {b : Nat}
    (h : MallocsAllow (readFrame bytes s) bytes.length (some a) (some b)) :
    s.heap.isLive b = false ∧ a ≠ b := by
  have hfresh : (s.heap.alloc a (s.frames ++ [bytes]).length.pred (.record none)).isLive b =
      false := h.body.2
  have hne : b ≠ a := by
    rintro rfl
    rw [Heap.holds_alloc_self.isLive] at hfresh
    cases hfresh
  rw [Heap.isLive_alloc_of_ne hne] at hfresh
  exact ⟨hfresh, hne.symm⟩

/-- A later frame does not change what becomes of the pending message. -/
theorem displacement_later {s₁ : SharedState}
    (h : ∀ q, s.xMailboxIncomingQueue = some q → Stored s q)
    (hqueue : s₁.xMailboxIncomingQueue = s.xMailboxIncomingQueue)
    (hframes : s₁.frames = s.frames ++ [bytes]) : displacement s₁ = displacement s := by
  unfold displacement
  rw [hqueue, hframes]
  cases hpending : s.xMailboxIncomingQueue with
  | none => rfl
  | some q =>
      obtain ⟨frame, -, hframe, -⟩ := h q hpending
      simp only [frame_later hframe, hframe]

theorem receiveData_parsed {b : Nat}
    (hallowed : MallocsAllow (readFrame bytes s) bytes.length (some a) (some b))
    (hqueue : ∀ q, s.xMailboxIncomingQueue = some q → Stored s q) :
    ∃ s', receiveData bytes (some a) (some b) s = some s' ∧
      s'.frames = s.frames ++ [bytes] ∧
      s'.xMailboxIncomingQueue = some ⟨a, s.frames.length⟩ ∧
      Stored s' ⟨a, s.frames.length⟩ ∧
      s'.trace = s.trace ++ displacement s ++ [.sent s.frames.length] := by
  obtain ⟨hb, hab⟩ := body_fresh_of_allowed hallowed
  obtain ⟨s', hstep, hframes, hqueue', hstored, hfree, hdisplace⟩ :=
    receiveData_stored (frameComplete_of_allowed hallowed) (fresh_of_allowed hallowed) hb hab hqueue
  refine ⟨s', hstep, hframes, hqueue', hstored, ?_⟩
  cases hpending : s.xMailboxIncomingQueue with
  | none =>
      rw [hfree hpending]
      simp [displacement, hpending]
  | some q =>
      obtain ⟨frame, -, hframe, -⟩ := hqueue q hpending
      rw [hdisplace q frame hpending hframe]
      simp [displacement, hpending, hframe]

/-- When the copy of the body fails, the record goes into the queue as it is. -/
theorem receiveData_unset
    (hallowed : MallocsAllow (readFrame bytes s) bytes.length (some a) none)
    (hqueue : ∀ q, s.xMailboxIncomingQueue = some q → Stored s q) :
    ∃ s', receiveData bytes (some a) none s = some s' ∧
      s'.frames = s.frames ++ [bytes] ∧
      s'.xMailboxIncomingQueue = some ⟨a, s.frames.length⟩ ∧
      Unset s' ⟨a, s.frames.length⟩ ∧
      s'.trace = s.trace ++ displacement s ++ [.sent s.frames.length] := by
  let s₁ : SharedState := { readFrame bytes s with
    heap := s.heap.alloc a s.frames.length (.record none) }
  have hfresh := fresh_of_allowed hallowed
  have hlength : (readFrame bytes s).frames.length - 1 = s.frames.length := by
    simp [readFrame]
  have hparse : parseMessage (dataEvent (readFrame bytes s) bytes.length) (some a) none
      (readFrame bytes s) = (some ⟨a, s.frames.length⟩, s₁) := by
    simp only [parseMessage, mallocMessage, clone, hlength]
    rfl
  have hstored : ∀ q, s₁.xMailboxIncomingQueue = some q → Stored s₁ q := by
    intro q hq
    have hextends : Extends s s₁ := fun _ _ hk => frame_later hk
    exact (hqueue q hq).keep hextends (Heap.alloc_keeps hfresh)
  obtain ⟨s', hstore, hqueue', hframes, hkeeps, htrace⟩ :=
    storeMessage_stored (p := ⟨a, s.frames.length⟩) hstored
  refine ⟨s', ?_, hframes, hqueue', ?_, ?_⟩
  · exact (sendDataToMailboxIncoming_of_parsed hparse).trans hstore
  · refine hkeeps _ ?_ _ _ Heap.holds_alloc_self
    intro q hq
    obtain ⟨frame, -, hframe, -⟩ := hqueue q hq
    exact Nat.ne_of_gt (List.getElem?_eq_some_iff.mp hframe).1
  · have hsame : displacement s₁ = displacement s := displacement_later hqueue rfl rfl
    rw [htrace, hsame]
    rfl

/-- A refusal carries the ids of a frame that is long enough to have them. -/
theorem refuseMessage_readFrame (hids : 2 ≤ bytes.length) :
    refuseMessage (dataEvent (readFrame bytes s) bytes.length) (readFrame bytes s) =
      (readFrame bytes s).log (.refused
        (sendStatus (charAt bytes 0) (charAt bytes 1) errNotEnoughMemory)) := by
  have hendpoint : charAt (bytes ++ s.rxBuffer.drop bytes.length) 0 = charAt bytes 0 :=
    charAt_append (by omega)
  have hid : charAt (bytes ++ s.rxBuffer.drop bytes.length) 1 = charAt bytes 1 :=
    charAt_append (by omega)
  rw [← hendpoint, ← hid]
  rfl

theorem receiveData_refused :
    receiveData bytes none r₂ s = some (refuseMessage
      (dataEvent (readFrame bytes s) bytes.length) (readFrame bytes s)) := rfl

theorem parseMessage_keeps {b : Option Nat} {s₁ : SharedState} {data : EspWebsocketEventData}
    (hparse : parseMessage data (some a) b s = (some p, s₁))
    (ha : s.heap.isLive a = false) (hb : ∀ str ∈ b, (s.heap.alloc a (s.frames.length - 1)
      (.record none)).isLive str = false) :
    s₁.xMailboxIncomingQueue = s.xMailboxIncomingQueue ∧
      ∀ k, k ≠ s.frames.length - 1 → Heap.Keeps k s.heap s₁.heap := by
  cases b with
  | none =>
      cases hparse
      exact ⟨rfl, fun k _ => Heap.alloc_keeps ha⟩
  | some str =>
      cases hparse
      refine ⟨rfl, fun k hk => ?_⟩
      have hstr := hb str rfl
      let body := data.dataBodyPtr.take data.dataLength.toNat
      let serial := s.frames.length - 1
      have hrecord : ((s.heap.alloc a serial (.record none)).alloc str serial (.body body)).Holds
          a serial (.record none) := Heap.alloc_keeps hstr _ _ Heap.holds_alloc_self
      exact ((Heap.alloc_keeps ha).trans (Heap.alloc_keeps hstr)).trans
        (hrecord.write_keeps (Ne.symm hk))

/-- A call that would displace a message with unset fields jumps through an unset
function pointer. -/
theorem receiveData_stuck (hq : s.xMailboxIncomingQueue = some q) (hunset : Unset s q)
    (hserial : q.serial < s.frames.length)
    (hallowed : MallocsAllow (readFrame bytes s) bytes.length (some a) r₂) :
    receiveData bytes (some a) r₂ s = none := by
  have hlength : (readFrame bytes s).frames.length - 1 = s.frames.length := by
    simp [readFrame]
  obtain ⟨p, s₁, hparse⟩ : ∃ p s₁, parseMessage
      (dataEvent (readFrame bytes s) bytes.length) (some a) r₂ (readFrame bytes s) =
        (some p, s₁) := by
    cases r₂ with
    | none => exact ⟨_, _, rfl⟩
    | some b => exact ⟨_, _, rfl⟩
  obtain ⟨hqueue₁, hkeeps⟩ := parseMessage_keeps hparse hallowed.message.2 (by
    rintro str ⟨⟩
    exact hallowed.body.2)
  rw [hlength] at hkeeps
  have hunset₁ : Unset s₁ q := hkeeps _ (Nat.ne_of_lt hserial) _ _ hunset
  exact (sendDataToMailboxIncoming_of_parsed hparse).trans
    (storeMessage_unset (hqueue₁.trans hq) hunset₁.message)

theorem vEndpointTaskGPIO_stuck (hq : s.xMailboxIncomingQueue = some q) (hunset : Unset s q) :
    vEndpointTaskGPIO s = none := by
  simp [vMailboxRecieve, vEndpointTaskGPIO, hq, uxQueueMessagesWaiting, xQueuePeek,
    hunset.message]

end Calls

section Runs

variable {s s' : SharedState} {rx : List UInt8} {c : Call} {cs : List Call}

/-- What a call does, with all that the rest of the development needs of it. -/
inductive CallMove (s : SharedState) : Call → SharedState → Prop
  | refused (bytes : List UInt8) (r₂ : Option Nat) (nonempty : bytes ≠ []) :
      CallMove s (.frame bytes none r₂) (refuseMessage
        (dataEvent (readFrame bytes s) bytes.length) (readFrame bytes s))
  | unset (bytes : List UInt8) (a : Nat) (s' : SharedState) (set : PendingSet s)
      (frames : s'.frames = s.frames ++ [bytes])
      (queue : s'.xMailboxIncomingQueue = some ⟨a, s.frames.length⟩)
      (record : Unset s' ⟨a, s.frames.length⟩)
      (trace : s'.trace = s.trace ++ displacement s ++ [.sent s.frames.length]) :
      CallMove s (.frame bytes (some a) none) s'
  | parsed (bytes : List UInt8) (a b : Nat) (s' : SharedState) (set : PendingSet s)
      (complete : FrameComplete bytes) (frames : s'.frames = s.frames ++ [bytes])
      (queue : s'.xMailboxIncomingQueue = some ⟨a, s.frames.length⟩)
      (stored : Stored s' ⟨a, s.frames.length⟩)
      (trace : s'.trace = s.trace ++ displacement s ++ [.sent s.frames.length]) :
      CallMove s (.frame bytes (some a) (some b)) s'
  | notMine : CallMove s .poll s
  | handled (p : MsgPtr) (frame : List UInt8) (pData : Nat) (s' : SharedState)
      (pending : s.xMailboxIncomingQueue = some p) (stored : Stored s p)
      (arrived : s.frames[p.serial]? = some frame) (own : ownFrame frame = true)
      (frames : s'.frames = s.frames) (queue : s'.xMailboxIncomingQueue = none)
      (trace : s'.trace = s.trace ++
        [.handled gpioEndpointId p.serial (frameMessage frame pData) (frameBody frame)
            (commandCalls frame),
          .answered p.serial (commandStatus frame) (replyTo frame (commandStatus frame)),
          .released p.serial]) :
      CallMove s .poll s'

theorem step_move (h : MailboxInv s) (hallowed : Allowed s c) (hstep : step s c = some s') :
    CallMove s c s' := by
  rcases pendingSet_or_unset h with hset | ⟨q, hq, hunset, hserial⟩
  · have hqueue := h.stored hset
    rcases c with ⟨bytes, _ | a, r₂⟩ | _
    · cases hstep
      exact .refused bytes r₂ hallowed.1
    · rcases r₂ with _ | b
      · obtain ⟨s₁, hreceive, hframes, hqueue', hrecord, htrace⟩ :=
          receiveData_unset hallowed.2 hqueue
        cases hreceive.symm.trans hstep
        exact .unset bytes a _ hset hframes hqueue' hrecord htrace
      · obtain ⟨s₁, hreceive, hframes, hqueue', hstored, htrace⟩ :=
          receiveData_parsed hallowed.2 hqueue
        cases hreceive.symm.trans hstep
        exact .parsed bytes a b _ hset (frameComplete_of_allowed hallowed.2) hframes hqueue'
          hstored htrace
    · cases hpending : s.xMailboxIncomingQueue with
      | none =>
          cases (vEndpointTaskGPIO_empty hpending).symm.trans hstep
          exact .notMine
      | some p =>
          have hstored := hqueue p hpending
          obtain ⟨frame, -, hframe, -⟩ := id hstored
          cases hown : ownFrame frame with
          | false =>
              cases (vEndpointTaskGPIO_other hpending hstored hframe hown).symm.trans hstep
              exact .notMine
          | true =>
              obtain ⟨s₁, pData, hpoll, hframes, hqueue', htrace⟩ :=
                vEndpointTaskGPIO_own hpending hstored hframe hown
              cases hpoll.symm.trans hstep
              exact .handled p frame pData _ hpending hstored hframe hown hframes hqueue' htrace
  · rcases c with ⟨bytes, _ | a, r₂⟩ | _
    · cases hstep
      exact .refused bytes r₂ hallowed.1
    · cases (receiveData_stuck hq hunset hserial hallowed.2).symm.trans hstep
    · cases (vEndpointTaskGPIO_stuck hq hunset).symm.trans hstep

theorem mailboxInv_step (h : MailboxInv s) (move : CallMove s c s') : MailboxInv s' := by
  cases move with
  | refused bytes r₂ nonempty =>
      intro q hq
      rcases h q hq with hstored | ⟨hunset, hserial⟩
      · exact .inl (hstored.keep (fun _ _ hk => frame_later hk) Heap.Keeps.refl)
      · refine .inr ⟨hunset, ?_⟩
        change q.serial < (s.frames ++ [bytes]).length
        rw [List.length_append]
        omega
  | unset bytes a s' set frames queue record trace =>
      intro q hq
      cases queue.symm.trans hq
      refine .inr ⟨record, ?_⟩
      rw [frames, List.length_append, List.length_singleton]
      exact Nat.lt_succ_self _
  | parsed bytes a b s' set complete frames queue stored trace =>
      intro q hq
      cases queue.symm.trans hq
      exact .inl stored
  | notMine => exact h
  | handled p frame pData s' pending stored arrived own frames queue trace =>
      intro q hq
      cases queue.symm.trans hq

theorem mailboxInv_run (run : Run step Allowed (vMailboxInit rx) cs s) : MailboxInv s := by
  apply run.invariant (P := MailboxInv)
  · intro q hq
    cases hq
  · intro _ u c v _ hu hallowed hstep
    exact mailboxInv_step hu (step_move hu hallowed hstep)

end Runs

end Esp32Iot.MailboxCalls
