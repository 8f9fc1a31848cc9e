import Mathlib.Data.List.Sort
import Mathlib.Data.List.Range
import Esp32Iot.TaskHistory

namespace Esp32Iot.TaskOrder

open Esp32Iot.BlockHeap
open Esp32Iot.Mailbox
open Esp32Iot.Communication
open Esp32Iot.GuardedRun
open Esp32Iot.TaskSteps
open Esp32Iot.TaskHistory

/-- The queue holds no message of frame number `n` or later. -/
def QueuedBelow (s : SharedState) (n : Nat) : Prop :=
  ∀ q, s.xMailboxIncomingQueue = some q → q.serial < n

/-- Every message that has been in the queue so far has a serial below. -/
def sentBound (s : SharedState) : WebsocketPc → Nat
  | .mallocMessage _ => s.frames.length - 1
  | .clone _ p | .setFields _ p _ | .testWaiting p | .receive p | .callBack p _ _
  | .reset p | .send p => p.serial
  | .idle | .refuse _ | .crashed => s.frames.length

/-- The producer's view of the slot: the message it is about to send is the
newest, and from the displacement on the slot is empty. -/
def SlotInv (s : SharedState) : WebsocketPc → Prop
  | .mallocMessage _ => 0 < s.frames.length ∧ QueuedBelow s (s.frames.length - 1)
  | .clone _ p | .setFields _ p _ | .testWaiting p | .receive p =>
      p.serial + 1 = s.frames.length ∧ QueuedBelow s p.serial
  | .callBack p _ _ | .reset p | .send p =>
      p.serial + 1 = s.frames.length ∧ s.xMailboxIncomingQueue = none
  | .idle | .refuse _ | .crashed => QueuedBelow s s.frames.length

/-- What is in the queue after it has been emptied or left alone was there before. -/
theorem queue_of_drain {s s' : SharedState} {q : MsgPtr}
    (hqueue : s'.xMailboxIncomingQueue = s.xMailboxIncomingQueue ∨
      s'.xMailboxIncomingQueue = none) (hq : s'.xMailboxIncomingQueue = some q) :
    s.xMailboxIncomingQueue = some q := by
  rcases hqueue with hsame | hempty
  · rw [← hsame]
    exact hq
  · rw [hempty] at hq
    cases hq

theorem queuedBelow_of_empty {s : SharedState} {n : Nat}
    (hempty : s.xMailboxIncomingQueue = none) : QueuedBelow s n := by
  intro q hq
  rw [hempty] at hq
  cases hq

theorem QueuedBelow.mono {s : SharedState} {m n : Nat} (h : QueuedBelow s m)
    (hle : m ≤ n) : QueuedBelow s n := fun q hq => Nat.lt_of_lt_of_le (h q hq) hle

theorem SlotInv.queued {s : SharedState} {pc : WebsocketPc} (h : SlotInv s pc) :
    QueuedBelow s (sentBound s pc) := by
  cases pc with
  | idle | refuse | crashed => exact h
  | mallocMessage | clone | setFields | testWaiting | receive => exact h.2
  | callBack | reset | send => exact queuedBelow_of_empty h.2

theorem SlotInv.sentBound_le {s : SharedState} {pc : WebsocketPc} (h : SlotInv s pc) :
    sentBound s pc ≤ s.frames.length := by
  cases pc with
  | idle | refuse | crashed => exact Nat.le_refl _
  | mallocMessage => exact Nat.sub_le _ _
  | clone | setFields | testWaiting | receive | callBack | reset | send =>
      have hnew := h.1
      simp only [sentBound]
      omega

/-- Taking from the queue, by whichever task, keeps the producer's view. -/
theorem SlotInv.drain {s s' : SharedState} {pc : WebsocketPc} (h : SlotInv s pc)
    (hframes : s'.frames = s.frames)
    (hqueue : s'.xMailboxIncomingQueue = s.xMailboxIncomingQueue ∨
      s'.xMailboxIncomingQueue = none) : SlotInv s' pc := by
  have hbelow : ∀ n, QueuedBelow s n → QueuedBelow s' n := by
    intro n hn q hq
    exact hn q (queue_of_drain hqueue hq)
  have hnone : s.xMailboxIncomingQueue = none → s'.xMailboxIncomingQueue = none := by
    intro hn
    rcases hqueue with hsame | hempty
    · rw [hsame, hn]
    · exact hempty
  cases pc with
  | idle | refuse | crashed =>
      simp only [SlotInv, hframes]
      exact hbelow _ h
  | mallocMessage =>
      simp only [SlotInv, hframes]
      exact ⟨h.1, hbelow _ h.2⟩
  | clone | setFields | testWaiting | receive => exact ⟨hframes ▸ h.1, hbelow _ h.2⟩
  | callBack | reset | send => exact ⟨hframes ▸ h.1, hnone h.2⟩

theorem CallBackMove.queue {s s' : SharedState} {env : Env} {p : MsgPtr} {status : Int}
    {pc : CallBackPc} {next : Option CallBackPc}
    (move : CallBackMove s env p status pc s' next) :
    s'.xMailboxIncomingQueue = s.xMailboxIncomingQueue := by
  cases move <;> rfl

theorem EndpointMove.queue {endpointId : Int}
    {handler : XMailboxMessage → List UInt8 → HandlerRun} {s s' : SharedState} {env : Env}
    {pc pc' : EndpointPc} (move : EndpointMove endpointId handler s env pc s' pc') :
    s'.xMailboxIncomingQueue = s.xMailboxIncomingQueue ∨ s'.xMailboxIncomingQueue = none := by
  cases move with
  | inCallBack p status pc pc' s' move => exact .inl (CallBackMove.queue move)
  | calledBack p status pc s' move => exact .inl (CallBackMove.queue move)
  | reset p => exact .inr rfl
  | _ => exact .inl rfl

theorem slotInv_frame {s : SharedState} {bytes : List UInt8} (h : SlotInv s .idle) :
    SlotInv (readFrame bytes s) (.mallocMessage bytes.length) := by
  constructor
  · simp [readFrame]
  · intro q hq
    have hlt := h q hq
    simpa [readFrame] using hlt

theorem WebsocketMove.slotInv {s s' : SharedState} {env : Env} {pc pc' : WebsocketPc}
    (move : WebsocketMove s env pc s' pc') (h : SlotInv s pc) : SlotInv s' pc' := by
  cases move with
  | allocated len a unused given =>
      refine ⟨?_, h.2⟩
      change s.frames.length - 1 + 1 = s.frames.length
      have hpos := h.1
      omega
  | notAllocated len given => exact h.2.mono (Nat.sub_le _ _)
  | cloned len p str unused given positive => exact h
  | notCloned len p given => exact h
  | setFields len p pData => exact h
  | refuse len => exact h
  | waiting p q full => exact h
  | notWaiting p empty => exact ⟨h.1, empty⟩
  | received p prevMessage full => exact ⟨h.1, rfl⟩
  | notReceived p empty => exact ⟨h.1, empty⟩
  | inCallBack p prevMessage pc pc' s' move =>
      have hframes := CallBackMove.frames move
      have hqueue := CallBackMove.queue move
      exact ⟨hframes ▸ h.1, hqueue ▸ h.2⟩
  | calledBack p prevMessage pc s' move =>
      have hframes := CallBackMove.frames move
      have hqueue := CallBackMove.queue move
      exact ⟨hframes ▸ h.1, hqueue ▸ h.2⟩
  | jumped p prevMessage wild => exact queuedBelow_of_empty h.2
  | reset p => exact ⟨h.1, rfl⟩
  | sent p empty =>
      intro q hq
      cases hq
      change p.serial < s.frames.length
      have hnew := h.1
      omega
  | notSent p q full =>
      rw [h.2] at full
      cases full

/-- Only the message the websocket task is about to send enters the queue. -/
theorem WebsocketMove.queued {s s' : SharedState} {env : Env} {pc pc' : WebsocketPc}
    (move : WebsocketMove s env pc s' pc') {q : MsgPtr}
    (hq : s'.xMailboxIncomingQueue = some q) :
    s.xMailboxIncomingQueue = some q ∨ pc = .send q := by
  cases move with
  | received p prevMessage full => cases hq
  | reset p => cases hq
  | sent p empty =>
      cases hq
      exact .inr rfl
  | inCallBack p prevMessage pc pc' s' move =>
      rw [CallBackMove.queue move] at hq
      exact .inl hq
  | calledBack p prevMessage pc s' move =>
      rw [CallBackMove.queue move] at hq
      exact .inl hq
  | _ => exact .inl hq

def Past (s : SharedState) (pc : WebsocketPc) (k : Nat) : Prop :=
  k < sentBound s pc ∧ ∀ q, s.xMailboxIncomingQueue = some q → k < q.serial

/-- Message `k` has been in the queue, and no older one is there or will be. -/
def Seen (s : SharedState) (pc : WebsocketPc) (k : Nat) : Prop :=
  k < sentBound s pc ∧ ∀ q, s.xMailboxIncomingQueue = some q → k ≤ q.serial

structure Advance (s : SharedState) (pc : WebsocketPc) (s' : SharedState)
    (pc' : WebsocketPc) : Prop where
  bound : sentBound s pc ≤ sentBound s' pc'
  queue : ∀ q, s'.xMailboxIncomingQueue = some q →
    s.xMailboxIncomingQueue = some q ∨ sentBound s pc ≤ q.serial

theorem Past.advance {s s' : SharedState} {pc pc' : WebsocketPc} {k : Nat}
    (h : Past s pc k) (hadv : Advance s pc s' pc') : Past s' pc' k := by
  refine ⟨Nat.lt_of_lt_of_le h.1 hadv.bound, ?_⟩
  intro q hq
  rcases hadv.queue q hq with hold | hnew
  · exact h.2 q hold
  · exact Nat.lt_of_lt_of_le h.1 hnew

theorem Seen.advance {s s' : SharedState} {pc pc' : WebsocketPc} {k : Nat}
    (h : Seen s pc k) (hadv : Advance s pc s' pc') : Seen s' pc' k := by
  refine ⟨Nat.lt_of_lt_of_le h.1 hadv.bound, ?_⟩
  intro q hq
  rcases hadv.queue q hq with hold | hnew
  · exact h.2 q hold
  · exact Nat.le_of_lt (Nat.lt_of_lt_of_le h.1 hnew)

theorem Seen.past_of_empty {s : SharedState} {pc : WebsocketPc} {k : Nat}
    (h : Seen s pc k) {s' : SharedState} {pc' : WebsocketPc}
    (hbound : sentBound s pc ≤ sentBound s' pc')
    (hempty : s'.xMailboxIncomingQueue = none) : Past s' pc' k := by
  refine ⟨Nat.lt_of_lt_of_le h.1 hbound, ?_⟩
  intro q hq
  rw [hempty] at hq
  cases hq

theorem advance_of_drain {s s' : SharedState} {pc pc' : WebsocketPc}
    (hbound : sentBound s pc ≤ sentBound s' pc')
    (hqueue : s'.xMailboxIncomingQueue = s.xMailboxIncomingQueue ∨
      s'.xMailboxIncomingQueue = none) : Advance s pc s' pc' := by
  refine ⟨hbound, ?_⟩
  intro q hq
  exact .inl (queue_of_drain hqueue hq)

theorem sentBound_frames {s s' : SharedState} (pc : WebsocketPc)
    (hframes : s'.frames = s.frames) : sentBound s' pc = sentBound s pc := by
  cases pc <;> simp [sentBound, hframes]

theorem WebsocketMove.advance {s s' : SharedState} {env : Env} {pc pc' : WebsocketPc}
    (move : WebsocketMove s env pc s' pc') (h : SlotInv s pc) : Advance s pc s' pc' := by
  cases move with
  | notAllocated len given => exact advance_of_drain (Nat.sub_le _ _) (.inl rfl)
  | received p prevMessage full => exact advance_of_drain (Nat.le_refl _) (.inr rfl)
  | inCallBack p prevMessage pc pc' s' move =>
      exact advance_of_drain (Nat.le_refl _) (.inl (CallBackMove.queue move))
  | calledBack p prevMessage pc s' move =>
      exact advance_of_drain (Nat.le_refl _) (.inl (CallBackMove.queue move))
  | jumped p prevMessage wild =>
      refine advance_of_drain ?_ (.inl rfl)
      have hnew := h.1
      simp only [sentBound]
      omega
  | reset p => exact advance_of_drain (Nat.le_refl _) (.inr rfl)
  | sent p empty =>
      have hnew := h.1
      refine ⟨?_, ?_⟩
      · change p.serial ≤ s.frames.length
        omega
      · rintro q ⟨⟩
        exact .inr (Nat.le_refl _)
  | notSent p q full =>
      rw [h.2] at full
      cases full
  | _ => exact advance_of_drain (Nat.le_refl _) (.inl rfl)

theorem EndpointMove.advance {endpointId : Int}
    {handler : XMailboxMessage → List UInt8 → HandlerRun} {s s' : SharedState} {env : Env}
    {pc pc' : EndpointPc} (move : EndpointMove endpointId handler s env pc s' pc')
    (wpc : WebsocketPc) : Advance s wpc s' wpc := by
  have hframes := EndpointMove.frames move
  exact advance_of_drain (Nat.le_of_eq (sentBound_frames wpc hframes).symm)
    (EndpointMove.queue move)

theorem advance_frame {s : SharedState} {bytes : List UInt8} :
    Advance s .idle (readFrame bytes s) (.mallocMessage bytes.length) := by
  refine advance_of_drain ?_ (.inl rfl)
  simp [sentBound, readFrame]

def displacedSerial : Event → Option Nat
  | .displaced serial => some serial
  | _ => none

def handledSerial (endpointId : Int) : Event → Option Nat
  | .handled id serial _ _ _ => if id = endpointId then some serial else none
  | _ => none

def sentSerial : Event → Option Nat
  | .sent serial => some serial
  | _ => none

def displacedSerials (s : SharedState) : List Nat := s.trace.filterMap displacedSerial

def sentSerials (s : SharedState) : List Nat := s.trace.filterMap sentSerial

def handledSerials (endpointId : Int) (s : SharedState) : List Nat :=
  s.trace.filterMap (handledSerial endpointId)

theorem serials_of_isCompletion {e : Event} (he : isCompletion e = true) :
    displacedSerial e = none ∧ sentSerial e = none ∧
      ∀ endpointId, handledSerial endpointId e = none := by
  cases e with
  | answered | released => exact ⟨rfl, rfl, fun _ => rfl⟩
  | _ => cases he

theorem CallBackMove.serials {s s' : SharedState} {env : Env} {p : MsgPtr} {status : Int}
    {pc : CallBackPc} {next : Option CallBackPc}
    (move : CallBackMove s env p status pc s' next) :
    displacedSerials s' = displacedSerials s ∧ sentSerials s' = sentSerials s ∧
      ∀ endpointId, handledSerials endpointId s' = handledSerials endpointId s := by
  obtain ⟨e, htrace, hcompletion⟩ := CallBackMove.log move
  refine ⟨filterMap_log htrace ?_, filterMap_log htrace ?_, fun _ => filterMap_log htrace ?_⟩
  · exact fun x hx => (serials_of_isCompletion (hcompletion x hx)).1
  · exact fun x hx => (serials_of_isCompletion (hcompletion x hx)).2.1
  · exact fun x hx => (serials_of_isCompletion (hcompletion x hx)).2.2 _

theorem WebsocketMove.handledSerials {s s' : SharedState} {env : Env}
    {pc pc' : WebsocketPc} (move : WebsocketMove s env pc s' pc') (endpointId : Int) :
    handledSerials endpointId s' = handledSerials endpointId s := by
  obtain ⟨e, htrace, hnot⟩ := WebsocketMove.log move
  refine filterMap_log htrace ?_
  intro x hx
  cases x with
  | handled => cases hnot _ hx
  | _ => rfl

/-- Increasing frame numbers of messages that have left the queue for good. -/
def PastSerials (s : SharedState) (pc : WebsocketPc) (serials : List Nat) : Prop :=
  serials.Pairwise (· < ·) ∧ ∀ k ∈ serials, Past s pc k

theorem PastSerials.advance {s s' : SharedState} {pc pc' : WebsocketPc} {l : List Nat}
    (h : PastSerials s pc l) (hadv : Advance s pc s' pc') : PastSerials s' pc' l :=
  ⟨h.1, fun k hk => (h.2 k hk).advance hadv⟩

theorem PastSerials.of_eq {s : SharedState} {pc : WebsocketPc} {l l' : List Nat}
    (h : PastSerials s pc l) (heq : l' = l) : PastSerials s pc l' := heq ▸ h

theorem PastSerials.concat {s : SharedState} {pc : WebsocketPc} {l : List Nat} {k : Nat}
    (h : PastSerials s pc l) (hk : Past s pc k) (hlt : ∀ j ∈ l, j < k) :
    PastSerials s pc (l ++ [k]) := by
  constructor
  · rw [List.pairwise_append]
    refine ⟨h.1, List.pairwise_singleton _ _, ?_⟩
    intro j hj k' hk'
    rw [List.mem_singleton.mp hk']
    exact hlt j hj
  · intro j hj
    rcases List.mem_append.mp hj with hj | hj
    · exact h.2 j hj
    · rw [List.mem_singleton.mp hj]
      exact hk

/-- Such serials are a selection from the arrival order of the frames. -/
theorem PastSerials.sublist_range {s : SharedState} {pc : WebsocketPc} {l : List Nat}
    (h : PastSerials s pc l) {n : Nat} (hn : sentBound s pc ≤ n) :
    l.Sublist (List.range n) := by
  have hnodup : l.Nodup := h.1.imp Nat.ne_of_lt
  have hsubset : l ⊆ List.range n := by
    intro k hk
    exact List.mem_range.mpr (Nat.lt_of_lt_of_le (h.2 k hk).1 hn)
  exact List.sublist_of_subperm_of_pairwise (List.subperm_of_subset hnodup hsubset) h.1
    List.pairwise_lt_range

theorem WebsocketMove.displaced {s s' : SharedState} {env : Env} {pc pc' : WebsocketPc}
    (move : WebsocketMove s env pc s' pc') (hslot : SlotInv s pc)
    (h : PastSerials s pc (displacedSerials s)) :
    PastSerials s' pc' (displacedSerials s') := by
  have hadv := WebsocketMove.advance move hslot
  cases move with
  | received p prevMessage full =>
      have hprev : Past ({ s with xMailboxIncomingQueue := none }.log
          (.displaced prevMessage.serial)) (.callBack p prevMessage .reply)
          prevMessage.serial := by
        refine ⟨hslot.2 prevMessage full, ?_⟩
        intro q hq
        cases hq
      have holder : ∀ k ∈ displacedSerials s, k < prevMessage.serial :=
        fun k hk => (h.2 k hk).2 prevMessage full
      simpa [displacedSerials, SharedState.log, displacedSerial] using
        (h.advance hadv).concat hprev holder
  | inCallBack p prevMessage pc pc' s' move =>
      rw [(CallBackMove.serials move).1]
      exact h.advance hadv
  | calledBack p prevMessage pc s' move =>
      rw [(CallBackMove.serials move).1]
      exact h.advance hadv
  | _ =>
      refine (h.advance hadv).of_eq ?_
      simp [displacedSerials, setFields, refuseMessage, SharedState.log,
        SharedState.resetQueue, displacedSerial]

theorem WebsocketMove.sentBelow {s s' : SharedState} {env : Env} {pc pc' : WebsocketPc}
    (move : WebsocketMove s env pc s' pc') (hslot : SlotInv s pc)
    (h : ∀ k ∈ sentSerials s, k < sentBound s pc) :
    ∀ k ∈ sentSerials s', k < sentBound s' pc' := by
  have hbound := (WebsocketMove.advance move hslot).bound
  have hold : sentSerials s' = sentSerials s → ∀ k ∈ sentSerials s', k < sentBound s' pc' := by
    intro hsame k hk
    rw [hsame] at hk
    exact Nat.lt_of_lt_of_le (h k hk) hbound
  cases move with
  | sent p empty =>
      intro k hk
      have hnew : p.serial + 1 = s.frames.length := hslot.1
      have hk' : k ∈ sentSerials s ++ [p.serial] := by
        simpa [sentSerials, SharedState.log, sentSerial] using hk
      change k < s.frames.length
      rcases List.mem_append.mp hk' with hk | hk
      · exact Nat.lt_of_lt_of_le (h k hk) hbound
      · rw [List.mem_singleton.mp hk]
        omega
  | inCallBack p prevMessage pc pc' s' move => exact hold (CallBackMove.serials move).2.1
  | calledBack p prevMessage pc s' move => exact hold (CallBackMove.serials move).2.1
  | _ =>
      apply hold
      simp [sentSerials, setFields, refuseMessage, SharedState.log, SharedState.resetQueue,
        sentSerial]

theorem EndpointMove.sentSerials {endpointId : Int}
    {handler : XMailboxMessage → List UInt8 → HandlerRun} {s s' : SharedState} {env : Env}
    {pc pc' : EndpointPc} (move : EndpointMove endpointId handler s env pc s' pc') :
    sentSerials s' = sentSerials s :=
  EndpointMove.filterMap_trace move (fun _ hx => (serials_of_isCompletion hx).2.1)
    fun _ _ _ _ => rfl

theorem EndpointMove.displacedSerials {endpointId : Int}
    {handler : XMailboxMessage → List UInt8 → HandlerRun} {s s' : SharedState} {env : Env}
    {pc pc' : EndpointPc} (move : EndpointMove endpointId handler s env pc s' pc') :
    displacedSerials s' = displacedSerials s :=
  EndpointMove.filterMap_trace move (fun _ hx => (serials_of_isCompletion hx).1)
    fun _ _ _ _ => rfl

/-- A task only adds to the messages of its own endpoint. -/
theorem EndpointMove.handledSerials_other {endpointId endpointId' : Int}
    {handler : XMailboxMessage → List UInt8 → HandlerRun} {s s' : SharedState} {env : Env}
    {pc pc' : EndpointPc} (move : EndpointMove endpointId handler s env pc s' pc')
    (hne : endpointId ≠ endpointId') :
    handledSerials endpointId' s' = handledSerials endpointId' s :=
  EndpointMove.filterMap_trace move (fun _ hx => (serials_of_isCompletion hx).2.2 _)
    fun _ _ _ _ => if_neg hne

def TaskInOrder (s : SharedState) (wpc : WebsocketPc) (handled : List Nat) :
    EndpointPc → Prop
  | .compare p | .reset p => Seen s wpc p.serial ∧ ∀ k ∈ handled, k < p.serial
  | .handle p => Past s wpc p.serial ∧ ∀ k ∈ handled, k < p.serial
  | .idle | .peek | .callBack _ _ _ | .crashed => True

theorem TaskInOrder.advance {s s' : SharedState} {wpc wpc' : WebsocketPc}
    {handled : List Nat} {pc : EndpointPc} (h : TaskInOrder s wpc handled pc)
    (hadv : Advance s wpc s' wpc') : TaskInOrder s' wpc' handled pc := by
  cases pc with
  | compare | reset => exact ⟨h.1.advance hadv, h.2⟩
  | handle => exact ⟨h.1.advance hadv, h.2⟩
  | _ => trivial

theorem EndpointMove.inOrder {endpointId : Int}
    {handler : XMailboxMessage → List UInt8 → HandlerRun} {s s' : SharedState} {env : Env}
    {pc pc' : EndpointPc} {wpc : WebsocketPc}
    (move : EndpointMove endpointId handler s env pc s' pc') (hslot : SlotInv s wpc)
    (hpast : PastSerials s wpc (handledSerials endpointId s))
    (htask : TaskInOrder s wpc (handledSerials endpointId s) pc) :
    PastSerials s' wpc (handledSerials endpointId s') ∧
      TaskInOrder s' wpc (handledSerials endpointId s') pc' := by
  have hadv := EndpointMove.advance move wpc
  cases move with
  | peeked p full =>
      refine ⟨hpast, ⟨hslot.queued p full, ?_⟩, fun k hk => (hpast.2 k hk).2 p full⟩
      intro q hq
      cases full.symm.trans hq
      exact Nat.le_refl _
  | mine p same => exact ⟨hpast, htask⟩
  | reset p =>
      have hgone : Past s.resetQueue wpc p.serial :=
        htask.1.past_of_empty hadv.bound rfl
      exact ⟨hpast.advance hadv, hgone, htask.2⟩
  | handled p message pData readsMessage readsBody =>
      refine ⟨?_, trivial⟩
      simpa [handledSerials, SharedState.log, handledSerial] using
        (hpast.advance hadv).concat (htask.1.advance hadv) htask.2
  | inCallBack p status pc pc' s' move =>
      rw [(CallBackMove.serials move).2.2]
      exact ⟨hpast.advance hadv, trivial⟩
  | calledBack p status pc s' move =>
      rw [(CallBackMove.serials move).2.2]
      exact ⟨hpast.advance hadv, trivial⟩
  | _ => exact ⟨hpast, trivial⟩

section Runs

variable {ι : Type*} {cfg : Endpoints ι} {guard : State ι → Action ι → Prop}
  {rx : List UInt8} {as : List (Action ι)} {s : State ι}

structure OrderInv (cfg : Endpoints ι) (s : State ι) : Prop where
  slot : SlotInv s.shared s.websocket
  sent : ∀ k ∈ sentSerials s.shared, k < sentBound s.shared s.websocket
  displaced : PastSerials s.shared s.websocket (displacedSerials s.shared)
  handled : ∀ t, PastSerials s.shared s.websocket
    (handledSerials (cfg.endpointId t) s.shared)
  task : ∀ t, TaskInOrder s.shared s.websocket
    (handledSerials (cfg.endpointId t) s.shared) (s.endpoint t)

theorem orderInv_start : OrderInv cfg (start rx) where
  slot q hq := by cases hq
  sent k hk := by cases hk
  displaced := ⟨List.Pairwise.nil, fun k hk => by cases hk⟩
  handled _ := ⟨List.Pairwise.nil, fun k hk => by cases hk⟩
  task _ := trivial

variable [DecidableEq ι]

theorem orderInv_step {s s' : State ι} {a : Action ι} (h : OrderInv cfg s)
    (hstep : step cfg s a = some s') : OrderInv cfg s' := by
  rcases step_cases hstep with ⟨bytes, -, hidle, rfl⟩ | ⟨env, shared, pc, -, move, rfl⟩ |
    ⟨t, env, shared, pc, -, move, rfl⟩
  · obtain ⟨hslot, hsent, hdisplaced, hhandled, htask⟩ := h
    rw [hidle] at hslot hsent hdisplaced hhandled htask
    exact ⟨slotInv_frame hslot,
      fun k hk => Nat.lt_of_lt_of_le (hsent k hk) advance_frame.bound,
      hdisplaced.advance advance_frame,
      fun t => (hhandled t).advance advance_frame,
      fun t => (htask t).advance advance_frame⟩
  · have hadv := WebsocketMove.advance move h.slot
    refine ⟨WebsocketMove.slotInv move h.slot, WebsocketMove.sentBelow move h.slot h.sent,
      WebsocketMove.displaced move h.slot h.displaced, ?_, ?_⟩
    · intro t
      rw [WebsocketMove.handledSerials move]
      exact (h.handled t).advance hadv
    · intro t
      rw [WebsocketMove.handledSerials move]
      exact (h.task t).advance hadv
  · have hadv := EndpointMove.advance move s.websocket
    have hframes := EndpointMove.frames move
    have hqueue := EndpointMove.queue move
    obtain ⟨hmine, htask⟩ := EndpointMove.inOrder move h.slot (h.handled t) (h.task t)
    refine ⟨h.slot.drain hframes hqueue, ?_, ?_, ?_, ?_⟩
    · intro k hk
      rw [EndpointMove.sentSerials move] at hk
      exact Nat.lt_of_lt_of_le (h.sent k hk) hadv.bound
    · rw [EndpointMove.displacedSerials move]
      exact h.displaced.advance hadv
    · intro u
      by_cases hu : t = u
      · exact hu ▸ hmine
      · have hid : cfg.endpointId t ≠ cfg.endpointId u := fun he => hu (cfg.distinct he)
        rw [EndpointMove.handledSerials_other move hid]
        exact (h.handled u).advance hadv
    · intro u
      by_cases hu : t = u
      · subst u
        simpa using htask
      · have hid : cfg.endpointId t ≠ cfg.endpointId u := fun he => hu (cfg.distinct he)
        rw [EndpointMove.handledSerials_other move hid]
        simpa [Function.update_of_ne (Ne.symm hu)] using (h.task u).advance hadv

theorem orderInv_run (run : Run (step cfg) guard (start rx) as s) : OrderInv cfg s := by
  apply run.invariant orderInv_start
  intro bs u a v _ hu _ hstep
  exact orderInv_step hu hstep

/-- What the websocket task's unchecked queue calls rely on. -/
structure ProducerSafe (cfg : Endpoints ι) (s : State ι) : Prop where
  sendFree : ∀ p, s.websocket = .send p → s.shared.xMailboxIncomingQueue = none
  sendEnters : ∀ p env s', s.websocket = .send p →
    step cfg s (.websocket env) = some s' → s'.shared.xMailboxIncomingQueue = some p
  resetEmpty : ∀ p, s.websocket = .reset p → s.shared.xMailboxIncomingQueue = none
  displacedOnce : (displacedSerials s.shared).Nodup

theorem producerSafe_run (run : Run (step cfg) Free (start rx) as s) :
    ProducerSafe cfg s := by
  have hinv := orderInv_run run
  have hsend : ∀ p, s.websocket = .send p → s.shared.xMailboxIncomingQueue = none := by
    intro p hpc
    have hslot := hinv.slot
    rw [hpc] at hslot
    exact hslot.2
  refine ⟨hsend, ?_, ?_, hinv.displaced.1.imp Nat.ne_of_lt⟩
  · intro p env s' hpc hstep
    simp only [step, hpc, websocketStep, sendMessage, xQueueSend, hsend p hpc] at hstep
    cases hstep
    rfl
  · intro p hpc
    have hslot := hinv.slot
    rw [hpc] at hslot
    exact hslot.2

/-- The second frame has displaced the first and is about to be put in the queue. -/
def aboutToSend : List (Action Unit) :=
  storeFrame [1, 0, 2, 7] 0 1 ++
    .frame [1, 1, 3, 7] :: websocketSteps [some 2, some 3, none, none, none, none, none, none]

/-- The endpoint takes the first frame between the test of the queue and the receive. -/
def takenMeanwhile : List (Action Unit) :=
  storeFrame [1, 0, 2, 7] 0 1 ++
    .frame [1, 1, 3, 7] :: websocketSteps [some 2, some 3, none, none] ++
    endpointSteps () 4 ++ websocketSteps [none]

theorem producerSafe_displacing :
    (∃ s, Run (step gpioEndpoints) Free (start []) aboutToSend s ∧
      (s.websocket = .send ⟨2, 1⟩ ∧ displacedSerials s.shared = [0]) ∧
      ProducerSafe gpioEndpoints s) ∧
    ∃ s, Run (step gpioEndpoints) Free (start []) takenMeanwhile s ∧
      s.websocket = .reset ⟨2, 1⟩ ∧ ProducerSafe gpioEndpoints s := by
  constructor
  · obtain ⟨s, run, hsend⟩ := Run.exists_of_exec_any (step gpioEndpoints) Free (start [])
      aboutToSend (fun s => s.websocket = .send ⟨2, 1⟩ ∧ displacedSerials s.shared = [0])
      (by decide)
    exact ⟨s, run, of_decide_eq_true hsend, producerSafe_run run⟩
  · obtain ⟨s, run, hreset⟩ := Run.exists_of_exec_any (step gpioEndpoints) Free (start [])
      takenMeanwhile (fun s => s.websocket = .reset ⟨2, 1⟩) (by decide)
    exact ⟨s, run, of_decide_eq_true hreset, producerSafe_run run⟩

end Runs

end Esp32Iot.TaskOrder
