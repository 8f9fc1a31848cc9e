import Mathlib.Algebra.BigOperators.Group.Finset.Basic
import Mathlib.Algebra.Order.BigOperators.Group.Finset
import Mathlib.Data.Fintype.EquivFin
import Esp32Iot.MessageBlocks
import Esp32Iot.UndisturbedCalls

namespace Esp32Iot.TaskProgress

open Esp32Iot.BlockHeap
open Esp32Iot.Communication
open Esp32Iot.FrameMessages
open Esp32Iot.GuardedRun
open Esp32Iot.Mailbox
open Esp32Iot.MessageBlocks
open Esp32Iot.MessageMemory
open Esp32Iot.TaskHistory
open Esp32Iot.TaskOrder
open Esp32Iot.TaskOwnership
open Esp32Iot.TaskSteps
open Esp32Iot.UndisturbedCalls (supply)

section Ranks

def callBackRank : CallBackPc → Nat
  | .reply => 3
  | .freeData => 2
  | .freeMessage => 1

/-- A bound on the steps that the websocket task has still to take for its frame. -/
def websocketRank : WebsocketPc → Nat
  | .idle | .crashed => 0
  | .refuse _ | .send _ => 1
  | .callBack _ _ pc => callBackRank pc + 1
  | .reset _ => 2
  | .receive _ => 5
  | .testWaiting _ => 6
  | .setFields _ _ _ => 7
  | .clone _ _ => 8
  | .mallocMessage _ => 9

/-- A bound on the steps of an endpoint task until its poll is over. -/
def endpointRank : EndpointPc → Nat
  | .idle | .crashed => 0
  | .callBack _ _ pc => callBackRank pc
  | .handle _ => 4
  | .reset _ => 5
  | .compare _ => 6
  | .peek => 7

/-- A bound on the steps of an endpoint task until it has released a message of its
own that is in the queue: what is left of this poll, and a whole one after it. -/
def pollRank (p : MsgPtr) : EndpointPc → Nat
  | .idle | .crashed => 8
  | .peek => 7
  | .compare q => if q = p then 6 else 9
  | .reset _ => 5
  | .handle _ => 12
  | .callBack _ _ pc => callBackRank pc + 8

theorem callBackRank_pos (pc : CallBackPc) : 0 < callBackRank pc := by
  cases pc <;> decide

theorem pollRank_pos (p : MsgPtr) (pc : EndpointPc) : 0 < pollRank p pc := by
  cases pc with
  | compare q =>
      simp only [pollRank]
      split <;> decide
  | _ => simp [pollRank]

theorem endpointRank_pos {p : MsgPtr} {pc : EndpointPc} (h : taken pc = some p) :
    0 < endpointRank pc := by
  cases pc with
  | callBack q status pc => exact callBackRank_pos pc
  | handle q => simp [endpointRank]
  | _ => cases h

theorem displacing_rank {p : MsgPtr} {pc : WebsocketPc} (h : displacing pc = some p) :
    1 < websocketRank pc ∧ websocketRank pc ≤ 4 := by
  cases pc with
  | callBack q prevMessage pc => cases pc <;> simp [websocketRank, callBackRank]
  | _ => cases h

theorem callBackRank_le (pc : CallBackPc) : callBackRank pc ≤ 3 := by
  cases pc <;> decide

theorem websocketRank_le (pc : WebsocketPc) : websocketRank pc ≤ 9 := by
  cases pc with
  | callBack p prevMessage pc =>
      have hle := callBackRank_le pc
      simp only [websocketRank]
      omega
  | _ => simp [websocketRank]

theorem endpointRank_le (pc : EndpointPc) : endpointRank pc ≤ 7 := by
  cases pc with
  | callBack p status pc =>
      have hle := callBackRank_le pc
      simp only [endpointRank]
      omega
  | _ => simp [endpointRank]

theorem pollRank_le (p : MsgPtr) (pc : EndpointPc) : pollRank p pc ≤ 12 := by
  cases pc with
  | callBack q status pc =>
      have hle := callBackRank_le pc
      simp only [pollRank]
      omega
  | compare q =>
      simp only [pollRank]
      split <;> decide
  | _ => simp [pollRank]

variable {s s' : SharedState} {env : Env}

theorem CallBackMove.rank {p : MsgPtr} {status : Int} {pc pc' : CallBackPc}
    (move : CallBackMove s env p status pc s' (some pc')) :
    callBackRank pc' < callBackRank pc := by
  cases move <;> decide

theorem WebsocketMove.rank {pc pc' : WebsocketPc} (move : WebsocketMove s env pc s' pc') :
    websocketRank pc' < websocketRank pc := by
  cases move with
  | inCallBack p prevMessage pc pc' s' move =>
      have hlt := CallBackMove.rank move
      simp only [websocketRank]
      omega
  | calledBack p prevMessage pc s' move =>
      have hpos := callBackRank_pos pc
      simp only [websocketRank]
      omega
  | _ => simp [websocketRank, callBackRank]

/-- Outside `idle` every step brings the end of the poll nearer. -/
theorem EndpointMove.rank {endpointId : Int}
    {handler : XMailboxMessage → List UInt8 → HandlerRun} {pc pc' : EndpointPc}
    (move : EndpointMove endpointId handler s env pc s' pc') (hbusy : pc ≠ .idle) :
    endpointRank pc' < endpointRank pc := by
  cases move with
  | waiting | notWaiting => exact absurd rfl hbusy
  | inCallBack p status pc pc' s' move => exact CallBackMove.rank move
  | calledBack p status pc s' move => exact callBackRank_pos pc
  | _ => simp [endpointRank, callBackRank]

end Ranks

section Answers

variable {s s' : SharedState} {p : MsgPtr}

def Answered (p : MsgPtr) (s : SharedState) : Prop :=
  ∃ status reply, .answered p.serial status reply ∈ s.trace

def Completed (p : MsgPtr) (s : SharedState) : Prop :=
  Answered p s ∧ .released p.serial ∈ s.trace

/-- A status has been sent for the message, and no block is in use for it, neither
for its record nor for its body. -/
structure Done (p : MsgPtr) (s : SharedState) : Prop where
  completed : Completed p s
  freed : ∀ a content, ¬ s.heap.Holds a p.serial content

theorem Answered.mono {e : Option Event} (h : Answered p s)
    (htrace : s'.trace = s.trace ++ e.toList) : Answered p s' := by
  obtain ⟨status, reply, hmem⟩ := h
  refine ⟨status, reply, ?_⟩
  rw [htrace]
  exact List.mem_append_left _ hmem

theorem Completed.mono {e : Option Event} (h : Completed p s)
    (htrace : s'.trace = s.trace ++ e.toList) : Completed p s' := by
  obtain ⟨hanswered, hreleased⟩ := h
  constructor
  · exact hanswered.mono htrace
  · rw [htrace]
    exact List.mem_append_left _ hreleased

variable {env : Env} {status : Int} {pc pc' : CallBackPc}

theorem CallBackMove.answers (move : CallBackMove s env p status pc s' (some pc'))
    (h : replied pc = true → Answered p s) : Answered p s' := by
  cases move with
  | reply known => exact ⟨status, _, List.mem_append_right _ (List.mem_singleton.mpr rfl)⟩
  | freeData => exact h rfl

theorem CallBackMove.ends (move : CallBackMove s env p status pc s' none)
    (h : replied pc = true → Answered p s) : Completed p s' := by
  cases move with
  | freeMessage =>
      have hanswered : Answered p s := h rfl
      constructor
      · exact hanswered.mono (e := some _) rfl
      · exact List.mem_append_right _ (List.mem_singleton.mpr rfl)

end Answers

variable {ι : Type*}

/-- Where a message for task `t` is, and the number of its own steps within which
the task has answered it, unless the websocket task comes first. -/
inductive Served (cfg : Endpoints ι) (t : ι) (p : MsgPtr) (n : Nat) (s : State ι) : Prop
  | pending (queued : s.shared.xMailboxIncomingQueue = some p)
      (addressed : AddressedTo (cfg.endpointId t) s.shared p)
      (within : pollRank p (s.endpoint t) ≤ n)
  | taken (held : taken (s.endpoint t) = some p)
      (answered : endpointReplied (s.endpoint t) = true → Answered p s.shared)
      (within : endpointRank (s.endpoint t) ≤ n)
  | displaced (held : displacing s.websocket = some p)
      (answered : websocketReplied s.websocket = true → Answered p s.shared)
  | done (finished : Completed p s.shared)

section Steps

variable {cfg : Endpoints ι} {t u : ι} {p : MsgPtr} {n : Nat} {s s' : SharedState}
  {wpc wpc' : WebsocketPc} {ep : ι → EndpointPc} {env : Env}

/-- The websocket task leaves a message where it is, or displaces it. -/
theorem served_websocket (move : WebsocketMove s env wpc s' wpc') (hslot : SlotInv s wpc)
    (hmem : WebsocketMemory s wpc) (h : Served cfg t p n ⟨s, wpc, ep⟩) :
    Served cfg t p n ⟨s', wpc', ep⟩ := by
  have hframes : Extends s s' := extends_of_eq (WebsocketMove.frames move)
  obtain ⟨e, htrace, -⟩ := WebsocketMove.log move
  rcases h with ⟨hqueued, haddressed, hwithin⟩ | ⟨hheld, hanswered, hwithin⟩ |
    ⟨hheld, hanswered⟩ | hdone
  · have hqueued' : s.xMailboxIncomingQueue = some p := hqueued
    have hstays : s'.xMailboxIncomingQueue = s.xMailboxIncomingQueue →
        Served cfg t p n ⟨s', wpc', ep⟩ := by
      intro hqueue
      exact .pending (hqueue.trans hqueued') (haddressed.extend hframes) hwithin
    cases move with
    | received q prevMessage full =>
        cases full.symm.trans hqueued'
        refine .displaced rfl ?_
        intro hreplied
        cases hreplied
    | reset q => cases hslot.2.symm.trans hqueued'
    | sent q empty => cases empty.symm.trans hqueued'
    | inCallBack q prevMessage pc pc' s' move => exact hstays (CallBackMove.queue move)
    | calledBack q prevMessage pc s' move => exact hstays (CallBackMove.queue move)
    | _ => exact hstays rfl
  · exact .taken hheld (fun hreplied => (hanswered hreplied).mono htrace) hwithin
  · cases move with
    | inCallBack q prevMessage pc pc' s' move =>
        cases hheld
        exact .displaced rfl fun _ => CallBackMove.answers move hanswered
    | calledBack q prevMessage pc s' move =>
        cases hheld
        exact .done (CallBackMove.ends move hanswered)
    | jumped q prevMessage wild => exact absurd wild (CallBackMemory.not_wild hmem.2)
    | _ => cases hheld
  · exact .done (hdone.mono htrace)

/-- A task at `compare` knows its own messages. -/
theorem readMessage_endpointId {endpointId : Int} (hrecorded : Recorded s p)
    (haddressed : AddressedTo endpointId s p) :
    (readMessage s env p).endpointId = endpointId := by
  obtain ⟨frame, hframe, rfl⟩ := haddressed
  obtain ⟨frame', pData, hframe', hmessage⟩ := hrecorded.message
  cases hframe.symm.trans hframe'
  rw [readMessage, hmessage]
  rfl

theorem served_mine [DecidableEq ι] {pc pc' : EndpointPc} (hpc : ep t = pc)
    (move : EndpointMove (cfg.endpointId t) (cfg.handler t) s env pc s' pc')
    (hmem : EndpointMemory (cfg.endpointId t) s pc)
    (hmem' : EndpointMemory (cfg.endpointId t) s' pc')
    (h : Served cfg t p n ⟨s, wpc, ep⟩) :
    Served cfg t p (n - 1) ⟨s', wpc, Function.update ep t pc'⟩ := by
  have hframes : Extends s s' := extends_of_eq (EndpointMove.frames move)
  have hself : Function.update ep t pc' t = pc' := Function.update_self _ _ _
  obtain ⟨e, htrace, -⟩ := EndpointMove.log move
  rcases h with ⟨hqueued, haddressed, hwithin⟩ | ⟨hheld, hanswered, hwithin⟩ |
    ⟨hheld, hanswered⟩ | hdone
  · have hqueued' : s.xMailboxIncomingQueue = some p := hqueued
    have hwithin' : pollRank p pc ≤ n := hpc ▸ hwithin
    have hstays : s'.xMailboxIncomingQueue = s.xMailboxIncomingQueue →
        pollRank p pc' < pollRank p pc →
        Served cfg t p (n - 1) ⟨s', wpc, Function.update ep t pc'⟩ := by
      intro hqueue hlt
      refine .pending (hqueue.trans hqueued') (haddressed.extend hframes) ?_
      show pollRank p (Function.update ep t pc' t) ≤ n - 1
      rw [hself]
      omega
    cases move with
    | waiting q full =>
        apply hstays rfl
        simp [pollRank]
    | notWaiting empty => cases empty.symm.trans hqueued'
    | peeked q full =>
        cases full.symm.trans hqueued'
        apply hstays rfl
        simp [pollRank]
    | notPeeked empty => cases empty.symm.trans hqueued'
    | mine q same =>
        cases hmem'.2.symm.trans hqueued'
        apply hstays rfl
        simp [pollRank]
    | notMine q other =>
        apply hstays rfl
        have hne : q ≠ p := by
          rintro rfl
          exact other (readMessage_endpointId hmem.1 haddressed)
        simp [pollRank, hne]
    | reset q =>
        cases hmem.2.symm.trans hqueued'
        refine .taken ?_ ?_ ?_
        · show taken (Function.update ep t (.handle p) t) = some p
          rw [hself]
          rfl
        · show endpointReplied (Function.update ep t (.handle p) t) = true → _
          rw [hself]
          intro hreplied
          cases hreplied
        · show endpointRank (Function.update ep t (.handle p) t) ≤ n - 1
          rw [hself]
          simp only [pollRank] at hwithin'
          simp only [endpointRank]
          omega
    | handled q message pData readsMessage readsBody =>
        apply hstays rfl
        simp [pollRank, callBackRank]
    | inCallBack q status pc pc' s' move =>
        apply hstays (CallBackMove.queue move)
        exact Nat.add_lt_add_right (CallBackMove.rank move) 8
    | calledBack q status pc s' move =>
        apply hstays (CallBackMove.queue move)
        have hpos := callBackRank_pos pc
        simp only [pollRank]
        omega
    | jumped q status wild => exact hmem'.elim
  · have hheld' : taken pc = some p := hpc ▸ hheld
    have hanswered' : endpointReplied pc = true → Answered p s := hpc ▸ hanswered
    have hwithin' : endpointRank pc ≤ n := hpc ▸ hwithin
    have hstays : taken pc' = some p → (endpointReplied pc' = true → Answered p s') →
        endpointRank pc' < endpointRank pc →
        Served cfg t p (n - 1) ⟨s', wpc, Function.update ep t pc'⟩ := by
      intro hheld hanswered hlt
      refine .taken ?_ ?_ ?_
      · show taken (Function.update ep t pc' t) = some p
        rw [hself]
        exact hheld
      · show endpointReplied (Function.update ep t pc' t) = true → Answered p s'
        rw [hself]
        exact hanswered
      · show endpointRank (Function.update ep t pc' t) ≤ n - 1
        rw [hself]
        omega
    cases move with
    | handled q message pData readsMessage readsBody =>
        apply hstays hheld'
        · intro hreplied
          cases hreplied
        · simp [endpointRank, callBackRank]
    | inCallBack q status pc pc' s' move =>
        cases hheld'
        apply hstays rfl
        · intro _
          exact CallBackMove.answers move hanswered'
        · exact CallBackMove.rank move
    | calledBack q status pc s' move =>
        cases hheld'
        exact .done (CallBackMove.ends move hanswered')
    | jumped q status wild => exact hmem'.elim
    | _ => cases hheld'
  · exact .displaced hheld fun hreplied => (hanswered hreplied).mono htrace
  · exact .done (hdone.mono htrace)

/-- The other endpoint tasks leave the message alone. -/
theorem served_other [DecidableEq ι] {pc : EndpointPc} (hne : u ≠ t)
    (move : EndpointMove (cfg.endpointId u) (cfg.handler u) s env (ep u) s' pc)
    (hmem : EndpointMemory (cfg.endpointId u) s (ep u)) (h : Served cfg t p n ⟨s, wpc, ep⟩) :
    Served cfg t p n ⟨s', wpc, Function.update ep u pc⟩ := by
  have hframes : Extends s s' := extends_of_eq (EndpointMove.frames move)
  have hother : Function.update ep u pc t = ep t := Function.update_of_ne (Ne.symm hne) _ _
  obtain ⟨e, htrace, -⟩ := EndpointMove.log move
  rcases h with ⟨hqueued, haddressed, hwithin⟩ | ⟨hheld, hanswered, hwithin⟩ |
    ⟨hheld, hanswered⟩ | hdone
  · have hqueue : s'.xMailboxIncomingQueue = some p := by
      have hpc : EndpointMemory (cfg.endpointId u) s (ep u) := hmem
      generalize ep u = before at move hpc
      have hqueued' : s.xMailboxIncomingQueue = some p := hqueued
      cases move with
      | reset q =>
          cases hpc.2.symm.trans hqueued'
          exact absurd (cfg.distinct (hpc.1.unique haddressed)) hne
      | inCallBack q status pc pc' s' move => exact (CallBackMove.queue move).trans hqueued'
      | calledBack q status pc s' move => exact (CallBackMove.queue move).trans hqueued'
      | _ => exact hqueued'
    refine .pending hqueue (haddressed.extend hframes) ?_
    show pollRank p (Function.update ep u pc t) ≤ n
    rw [hother]
    exact hwithin
  · refine .taken ?_ ?_ ?_
    · show taken (Function.update ep u pc t) = some p
      rw [hother]
      exact hheld
    · show endpointReplied (Function.update ep u pc t) = true → Answered p s'
      rw [hother]
      exact fun hreplied => (hanswered hreplied).mono htrace
    · show endpointRank (Function.update ep u pc t) ≤ n
      rw [hother]
      exact hwithin
  · exact .displaced hheld fun hreplied => (hanswered hreplied).mono htrace
  · exact .done (hdone.mono htrace)

theorem served_frame {bytes : List UInt8} (h : Served cfg t p n ⟨s, .idle, ep⟩) :
    Served cfg t p n ⟨readFrame bytes s, .mallocMessage bytes.length, ep⟩ := by
  rcases h with ⟨hqueued, haddressed, hwithin⟩ | ⟨hheld, hanswered, hwithin⟩ | ⟨hheld, -⟩ | hdone
  · exact .pending hqueued (haddressed.extend extends_readFrame) hwithin
  · exact .taken hheld hanswered hwithin
  · cases hheld
  · exact .done hdone

end Steps

section Responses

variable [DecidableEq ι] {cfg : Endpoints ι} {guard : State ι → Action ι → Prop}
  {rx : List UInt8} {as bs : List (Action ι)} {s s' : State ι} {t : ι} {p : MsgPtr} {n : Nat}

def ofTask (t : ι) : Action ι → Bool
  | .endpoint u _ => decide (u = t)
  | .frame _ | .websocket _ => false

def ofWebsocket : Action ι → Bool
  | .websocket _ => true
  | .frame _ | .endpoint _ _ => false

theorem served_run (before : Run (step cfg) guard (start rx) as s)
    (after : Run (step cfg) guard s bs s')
    (hguard : ∀ u a, guard u a → BodyCopied u a ∧ TakesAlone cfg u a)
    (h : Served cfg t p n s) : Served cfg t p (n - bs.countP (ofTask t)) s' := by
  apply after.history (P := fun cs u => Served cfg t p (n - cs.countP (ofTask t)) u)
  · exact h
  · intro cs u a v hbetween hu hallowed hstep
    have hrun := before.trans hbetween
    have hmem := (owns_run hrun hguard).1
    have hmem' := (owns_run (hrun.snoc hallowed hstep) hguard).1
    have hslot := (orderInv_run hrun).slot
    rw [List.countP_append]
    obtain ⟨shared, wpc, ep⟩ := u
    rcases step_cases hstep with ⟨bytes, rfl, hidle, rfl⟩ | ⟨env, shared', pc, rfl, move, rfl⟩ |
      ⟨w, env, shared', pc, rfl, move, rfl⟩
    · cases hidle
      exact served_frame hu
    · exact served_websocket move hslot hmem.websocket hu
    · by_cases hw : w = t
      · subst w
        have hone : [Action.endpoint t env].countP (ofTask t) = 1 := by simp [ofTask]
        have hown : EndpointMemory (cfg.endpointId t) shared' pc := by
          simpa using hmem'.task t
        rw [hone, ← Nat.sub_sub]
        exact served_mine rfl move (hmem.task t) hown hu
      · have hzero : [Action.endpoint w env].countP (ofTask t) = 0 := by simp [ofTask, hw]
        rw [hzero, Nat.add_zero]
        exact served_other hw move (hmem.task w) hu

/-- While a message is being displaced, only the websocket task's own steps matter. -/
def Displacing (p : MsgPtr) (n : Nat) (s : State ι) : Prop :=
  (displacing s.websocket = some p ∧
    (websocketReplied s.websocket = true → Answered p s.shared) ∧
    websocketRank s.websocket ≤ n + 1) ∨ Completed p s.shared

omit [DecidableEq ι] in
theorem displacing_websocket {s s' : SharedState} {wpc wpc' : WebsocketPc} {ep : ι → EndpointPc}
    {env : Env} (move : WebsocketMove s env wpc s' wpc') (hmem : WebsocketMemory s wpc)
    (h : Displacing p n (⟨s, wpc, ep⟩ : State ι)) :
    Displacing p (n - 1) (⟨s', wpc', ep⟩ : State ι) := by
  rcases h with ⟨hheld, hanswered, hwithin⟩ | hdone
  · cases move with
    | inCallBack q prevMessage pc pc' s' move =>
        cases hheld
        refine .inl ⟨rfl, fun _ => CallBackMove.answers move hanswered, ?_⟩
        have hlt := CallBackMove.rank move
        simp only [websocketRank] at hwithin ⊢
        omega
    | calledBack q prevMessage pc s' move =>
        cases hheld
        exact .inr (CallBackMove.ends move hanswered)
    | jumped q prevMessage wild => exact absurd wild (CallBackMemory.not_wild hmem.2)
    | _ => cases hheld
  · obtain ⟨e, htrace, -⟩ := WebsocketMove.log move
    exact .inr (hdone.mono htrace)

theorem displacing_run (before : Run (step cfg) guard (start rx) as s)
    (after : Run (step cfg) guard s bs s')
    (hguard : ∀ u a, guard u a → BodyCopied u a ∧ TakesAlone cfg u a)
    (h : Displacing p n s) : Displacing p (n - bs.countP ofWebsocket) s' := by
  apply after.history (P := fun cs u => Displacing p (n - cs.countP ofWebsocket) u)
  · exact h
  · intro cs u a v hbetween hu hallowed hstep
    have hmem := (owns_run (before.trans hbetween) hguard).1
    rw [List.countP_append]
    obtain ⟨shared, wpc, ep⟩ := u
    rcases step_cases hstep with ⟨bytes, rfl, hidle, rfl⟩ | ⟨env, shared', pc, rfl, move, rfl⟩ |
      ⟨w, env, shared', pc, rfl, move, rfl⟩
    · cases hidle
      rcases hu with ⟨hheld, -⟩ | hdone
      · cases hheld
      · exact .inr hdone
    · have hone : [Action.websocket (ι := ι) env].countP ofWebsocket = 1 := by
        simp [ofWebsocket]
      rw [hone, ← Nat.sub_sub]
      exact displacing_websocket move hmem.websocket hu
    · have hzero : [Action.endpoint w env].countP ofWebsocket = 0 := by simp [ofWebsocket]
      obtain ⟨e, htrace, -⟩ := EndpointMove.log move
      rw [hzero, Nat.add_zero]
      rcases hu with ⟨hheld, hanswered, hwithin⟩ | hdone
      · exact .inl ⟨hheld, fun hreplied => (hanswered hreplied).mono htrace, hwithin⟩
      · exact .inr (hdone.mono htrace)

theorem Completed.done (h : Completed p s.shared) (run : Run (step cfg) guard (start rx) as s)
    (hguard : ∀ u a, guard u a → BodyCopied u a ∧ TakesAlone cfg u a) : Done p s.shared :=
  ⟨h, freed_of_released run hguard h.2⟩

/-- Twelve steps of its endpoint's task, with any steps of the others between them,
see a pending message answered and released; or else the websocket task has taken it
back, and needs three steps more. -/
theorem pendingAnswered_run
    (before : Run (step cfg) (fun s a => BodyCopied s a ∧ TakesAlone cfg s a) (start rx) as s)
    (hpending : s.shared.xMailboxIncomingQueue = some p)
    (haddressed : AddressedTo (cfg.endpointId t) s.shared p)
    (after : Run (step cfg) (fun s a => BodyCopied s a ∧ TakesAlone cfg s a) s bs s')
    (hsteps : 12 ≤ bs.countP (ofTask t)) :
    Done p s'.shared ∨ (displacing s'.websocket = some p ∧ ∀ cs s'',
      Run (step cfg) (fun s a => BodyCopied s a ∧ TakesAlone cfg s a) s' cs s'' →
        3 ≤ cs.countP ofWebsocket → Done p s''.shared) := by
  have hserved : Served cfg t p 12 s := .pending hpending haddressed (pollRank_le _ _)
  have hend := served_run before after (fun _ _ h => h) hserved
  have hzero : 12 - bs.countP (ofTask t) = 0 := by omega
  rw [hzero] at hend
  rcases hend with ⟨-, -, hwithin⟩ | ⟨hheld, -, hwithin⟩ | ⟨hheld, hanswered⟩ | hdone
  · have hpos := pollRank_pos p (s'.endpoint t)
    omega
  · have hpos := endpointRank_pos hheld
    omega
  · refine .inr ⟨hheld, ?_⟩
    intro cs s'' hlast hthree
    have hdisplacing : Displacing p 3 s' := .inl ⟨hheld, hanswered, (displacing_rank hheld).2⟩
    have hafter := displacing_run (before.trans after) hlast (fun _ _ h => h) hdisplacing
    have hnone : 3 - cs.countP ofWebsocket = 0 := by omega
    rw [hnone] at hafter
    rcases hafter with ⟨hheld', -, hwithin⟩ | hdone
    · have hlt := (displacing_rank hheld').1
      omega
    · exact hdone.done ((before.trans after).trans hlast) fun _ _ h => h
  · exact .inl (hdone.done (before.trans after) fun _ _ h => h)

/-- A message for the GPIO endpoint, answered in the eight steps of one poll. -/
theorem pendingAnswered_polled : ∃ s s',
    Run (step gpioEndpoints) (fun s a => BodyCopied s a ∧ TakesAlone gpioEndpoints s a) s
      (endpointSteps () 12) s' ∧
    (Done ⟨0, 0⟩ s'.shared ∨ (displacing s'.websocket = some ⟨0, 0⟩ ∧ ∀ cs s'',
      Run (step gpioEndpoints) (fun s a => BodyCopied s a ∧ TakesAlone gpioEndpoints s a)
        s' cs s'' → 3 ≤ cs.countP ofWebsocket → Done ⟨0, 0⟩ s''.shared)) := by
  obtain ⟨s, before, htest⟩ := Run.exists_of_exec_any (step gpioEndpoints)
    (fun s a => BodyCopied s a ∧ TakesAlone gpioEndpoints s a) (start [])
    (storeFrame [1, 0, 2, 7] 0 1)
    (fun s => s.shared.xMailboxIncomingQueue = some ⟨0, 0⟩ ∧
      s.shared.frames[0]? = some [1, 0, 2, 7] ∧
      (exec (step gpioEndpoints) (fun s a => BodyCopied s a ∧ TakesAlone gpioEndpoints s a) s
        (endpointSteps () 12)).isSome = true) (by decide)
  obtain ⟨hpending, hframe, hafter⟩ := of_decide_eq_true htest
  obtain ⟨s', after⟩ := Run.exists_of_exec _ _ _ _ hafter
  have haddressed : AddressedTo (gpioEndpoints.endpointId ()) s.shared ⟨0, 0⟩ :=
    ⟨_, hframe, by decide⟩
  exact ⟨s, s', after, pendingAnswered_run (t := ()) before hpending haddressed after (by decide)⟩

end Responses

section Enabled

variable {s : SharedState} {env : Env}

def MallocGiven (s : SharedState) (env : Env) : WebsocketPc → Prop
  | .mallocMessage _ => s.heap.MallocAllows sizeofXMailboxMessage env.malloc
  | .clone len _ => s.heap.MallocAllows (dataEvent s len).dataLength env.malloc
  | _ => True

/-- Nothing but `malloc` can keep the websocket task from its next step. -/
theorem websocketStep_enabled {pc : WebsocketPc} (hidle : pc ≠ .idle) (hcrashed : pc ≠ .crashed)
    (hmalloc : MallocGiven s env pc) : ∃ s' pc', websocketStep s env pc = some (s', pc') := by
  cases pc with
  | idle => exact absurd rfl hidle
  | crashed => exact absurd rfl hcrashed
  | mallocMessage len =>
      have hallowed : s.heap.MallocAllows sizeofXMailboxMessage env.malloc := hmalloc
      simp only [websocketStep]
      rw [if_pos hallowed]
      cases env.malloc <;> exact ⟨_, _, rfl⟩
  | clone len p =>
      have hallowed : s.heap.MallocAllows (dataEvent s len).dataLength env.malloc := hmalloc
      simp only [websocketStep]
      rw [if_pos hallowed]
      cases env.malloc <;> exact ⟨_, _, rfl⟩
  | testWaiting p =>
      simp only [websocketStep]
      split <;> exact ⟨_, _, rfl⟩
  | receive p =>
      simp only [websocketStep]
      split <;> exact ⟨_, _, rfl⟩
  | callBack p prevMessage pc =>
      simp only [websocketStep]
      split <;> exact ⟨_, _, rfl⟩
  | setFields | refuse | reset | send => exact ⟨_, _, rfl⟩

theorem endpointStep_enabled {endpointId : Int}
    {handler : XMailboxMessage → List UInt8 → HandlerRun} {pc : EndpointPc}
    (hcrashed : pc ≠ .crashed) :
    ∃ s' pc', endpointStep endpointId handler s env pc = some (s', pc') := by
  cases pc with
  | crashed => exact absurd rfl hcrashed
  | reset | handle => exact ⟨_, _, rfl⟩
  | idle | peek | compare | callBack =>
      simp only [endpointStep]
      split <;> exact ⟨_, _, rfl⟩

end Enabled

section Settling

variable {cfg : Endpoints ι} {s : State ι}

/-- What is left to do of everything that has been begun. -/
def systemRank [Fintype ι] (s : State ι) : Nat :=
  websocketRank s.websocket + ∑ t, endpointRank (s.endpoint t)

theorem systemRank_le [Fintype ι] : systemRank s ≤ 9 + 7 * Fintype.card ι := by
  have htasks : ∑ t, endpointRank (s.endpoint t) ≤ ∑ _t : ι, 7 :=
    Finset.sum_le_sum fun t _ => endpointRank_le _
  have hwebsocket := websocketRank_le s.websocket
  rw [Finset.sum_const, Finset.card_univ, Nat.nsmul_eq_mul] at htasks
  unfold systemRank
  omega

/-- Between two frames and between two polls. -/
def Settled (s : State ι) : Prop := s.websocket = .idle ∧ ∀ t, s.endpoint t = .idle

def FrameGiven : Action ι → Prop
  | .frame bytes => FrameComplete bytes
  | .websocket _ | .endpoint _ _ => True

instance : (a : Action ι) → Decidable (FrameGiven a)
  | .frame bytes => inferInstanceAs (Decidable (FrameComplete bytes))
  | .websocket _ | .endpoint _ _ => inferInstanceAs (Decidable True)

/-- Frames are complete, their bodies are copied, and messages are taken alone. -/
def Regular (cfg : Endpoints ι) (s : State ι) (a : Action ι) : Prop :=
  FrameGiven a ∧ BodyCopied s a ∧ TakesAlone cfg s a

instance [Fintype ι] (cfg : Endpoints ι) (s : State ι) (a : Action ι) :
    Decidable (Regular cfg s a) :=
  inferInstanceAs (Decidable (_ ∧ _ ∧ _))

def isFrame : Action ι → Bool
  | .frame _ => true
  | .websocket _ | .endpoint _ _ => false

def beforeTaking : EndpointPc → Bool
  | .compare _ | .reset _ => true
  | _ => false

theorem endpointReleases_of_beforeTaking {pc : EndpointPc} (h : beforeTaking pc = true) :
    endpointReleases pc = none := by
  cases pc with
  | compare | reset => rfl
  | _ => cases h

theorem compares_of_not_beforeTaking {pc : EndpointPc} (h : beforeTaking pc = false)
    (released : Option Nat) : compares released pc = false := by
  cases pc with
  | compare => cases h
  | _ => rfl

theorem compares_none (pc : EndpointPc) : compares none pc = false := by
  cases pc <;> rfl

variable [DecidableEq ι] {guard : State ι → Action ι → Prop} {rx : List UInt8}
  {as : List (Action ι)}

theorem framesComplete_run (run : Run (step cfg) (Regular cfg) (start rx) as s) :
    ∀ frame ∈ s.shared.frames, FrameComplete frame := by
  apply run.invariant (P := fun u => ∀ frame ∈ u.shared.frames, FrameComplete frame)
  · intro frame hmem
    cases hmem
  · intro bs u a v _ hu hallowed hstep frame hmem
    rcases step_cases hstep with ⟨bytes, rfl, -, rfl⟩ | ⟨env, shared, pc, rfl, move, rfl⟩ |
      ⟨t, env, shared, pc, rfl, move, rfl⟩
    · rcases List.mem_append.mp hmem with hmem | hmem
      · exact hu frame hmem
      · rw [List.mem_singleton.mp hmem]
        exact hallowed.1
    · apply hu
      rw [← WebsocketMove.frames move]
      exact hmem
    · apply hu
      rw [← EndpointMove.frames move]
      exact hmem

omit [DecidableEq ι] in
/-- The environment can let the websocket task go on. -/
theorem mallocGiven_of_memory [Fintype ι] (hmem : WebsocketMemory s.shared s.websocket)
    (hcomplete : ∀ frame ∈ s.shared.frames, FrameComplete frame) (hlive : LiveOwned s) :
    ∃ env, MallocGiven s.shared env s.websocket ∧ BodyCopied s (.websocket env) := by
  cases hpc : s.websocket with
  | clone len p =>
      obtain ⟨a, ha⟩ := Infinite.exists_notMem_finset (ownedBlocks s)
      rw [hpc] at hmem
      obtain ⟨⟨frame, hcurrent⟩, -⟩ := hmem
      refine ⟨supply (some a), ⟨?_, ?_⟩, fun _ => rfl⟩
      · have hframe := hcomplete frame (List.mem_of_getElem? hcurrent.newest)
        have hlength := hcurrent.length
        unfold FrameComplete at hframe
        simp only [dataEvent, EspWebsocketEventData.dataLength]
        omega
      · rw [← Bool.not_eq_true]
        intro hused
        exact ha (mem_ownedBlocks.mpr (hlive a hused))
  | _ =>
      refine ⟨supply none, trivial, ?_⟩
      intro hcopies
      rw [hpc] at hcopies
      cases hcopies

omit [DecidableEq ι] in
theorem settling_websocket [Fintype ι] {env : Env} {shared : SharedState} {pc : WebsocketPc}
    (move : WebsocketMove s.shared env s.websocket shared pc) :
    systemRank { s with shared := shared, websocket := pc } < systemRank s :=
  Nat.add_lt_add_right (WebsocketMove.rank move) _

theorem settling_endpoint [Fintype ι] {t : ι} {env : Env} {shared : SharedState}
    {pc : EndpointPc} (hbusy : s.endpoint t ≠ .idle)
    (move : EndpointMove (cfg.endpointId t) (cfg.handler t) s.shared env (s.endpoint t)
      shared pc) :
    systemRank { s with shared := shared, endpoint := Function.update s.endpoint t pc } <
      systemRank s := by
  have hlt := EndpointMove.rank move hbusy
  apply Nat.add_lt_add_left
  apply Finset.sum_lt_sum
  · intro u _
    by_cases hu : u = t
    · subst u
      simpa using hlt.le
    · simp [Function.update_of_ne hu]
  · exact ⟨t, Finset.mem_univ t, by simpa using hlt⟩

/-- Unless everything is settled, some task has a step that it may take and that
brings the end of its work nearer. -/
theorem exists_settling [Fintype ι] (hmem : MemoryInv cfg s) (hlive : LiveOwned s)
    (hcomplete : ∀ frame ∈ s.shared.frames, FrameComplete frame) (hbusy : ¬ Settled s) :
    ∃ a s', Regular cfg s a ∧ step cfg s a = some s' ∧ isFrame a = false ∧
      systemRank s' < systemRank s := by
  have hendpoint : ∀ t, s.endpoint t ≠ .idle →
      TakesAlone cfg s (.endpoint t (supply none)) → ∃ a s', Regular cfg s a ∧
        step cfg s a = some s' ∧ isFrame a = false ∧ systemRank s' < systemRank s := by
    intro t hidle halone
    have hcrashed : s.endpoint t ≠ .crashed := by
      intro hpc
      have htask := hmem.task t
      rw [hpc] at htask
      exact htask
    have henabled : ∃ shared pc, endpointStep (cfg.endpointId t) (cfg.handler t) s.shared
        (supply none) (s.endpoint t) = some (shared, pc) := endpointStep_enabled hcrashed
    obtain ⟨shared, pc, hstep⟩ := henabled
    refine ⟨.endpoint t (supply none),
      { s with shared := shared, endpoint := Function.update s.endpoint t pc },
      ⟨trivial, trivial, halone⟩, ?_, rfl, ?_⟩
    · exact Option.map_eq_some_iff.mpr ⟨(shared, pc), hstep, rfl⟩
    · exact settling_endpoint hidle (endpointStep_move hstep)
  by_cases htaking : ∃ t, beforeTaking (s.endpoint t) = true
  · obtain ⟨t, ht⟩ := htaking
    apply hendpoint t
    · intro hpc
      rw [hpc] at ht
      cases ht
    · intro u
      rw [endpointReleases_of_beforeTaking ht]
      exact compares_none _
  · have hnone : ∀ t, beforeTaking (s.endpoint t) = false := by
      intro t
      rw [← Bool.not_eq_true]
      exact fun ht => htaking ⟨t, ht⟩
    by_cases hpolls : ∃ t, s.endpoint t ≠ .idle
    · obtain ⟨t, ht⟩ := hpolls
      exact hendpoint t ht fun u => compares_of_not_beforeTaking (hnone u) _
    · have hidle : ∀ t, s.endpoint t = .idle := by
        intro t
        by_contra ht
        exact hpolls ⟨t, ht⟩
      have hwebsocket : s.websocket ≠ .idle := fun hpc => hbusy ⟨hpc, hidle⟩
      have hcrashed : s.websocket ≠ .crashed := by
        intro hpc
        have hfalse := hmem.websocket
        rw [hpc] at hfalse
        exact hfalse
      obtain ⟨env, hgiven, hcopied⟩ := mallocGiven_of_memory hmem.websocket hcomplete hlive
      obtain ⟨shared, pc, hstep⟩ := websocketStep_enabled hwebsocket hcrashed hgiven
      refine ⟨.websocket env, { s with shared := shared, websocket := pc },
        ⟨trivial, hcopied, ?_⟩, ?_, rfl, ?_⟩
      · intro t
        rw [hidle t]
        exact ⟨Bool.and_false _, rfl⟩
      · exact Option.map_eq_some_iff.mpr ⟨(shared, pc), hstep, rfl⟩
      · exact settling_websocket (websocketStep_move hstep)

theorem settles_of_rank [Fintype ι] (n : Nat) (run : Run (step cfg) (Regular cfg) (start rx) as s)
    (hrank : systemRank s ≤ n) :
    ∃ bs s', Run (step cfg) (Regular cfg) s bs s' ∧ (∀ a ∈ bs, isFrame a = false) ∧
      bs.length ≤ n ∧ Settled s' := by
  induction n generalizing as s with
  | zero =>
      by_cases hsettled : Settled s
      · exact ⟨[], s, .nil, by simp, le_refl 0, hsettled⟩
      · obtain ⟨a, s', -, -, -, hlt⟩ := exists_settling
          (owns_run run fun _ _ h => h.2).1 (liveOwned_run run fun _ _ h => h.2)
          (framesComplete_run run) hsettled
        omega
  | succ n ih =>
      by_cases hsettled : Settled s
      · exact ⟨[], s, .nil, by simp, Nat.zero_le _, hsettled⟩
      · obtain ⟨a, s', hallowed, hstep, hframe, hlt⟩ := exists_settling
          (owns_run run fun _ _ h => h.2).1 (liveOwned_run run fun _ _ h => h.2)
          (framesComplete_run run) hsettled
        obtain ⟨bs, s'', hrest, hframes, hlength, hend⟩ :=
          ih (run.snoc hallowed hstep) (by omega)
        have hfirst : Run (step cfg) (Regular cfg) s [a] s' := .snoc .nil hallowed hstep
        refine ⟨[a] ++ bs, s'', hfirst.trans hrest, ?_, ?_, hend⟩
        · rintro b (_ | ⟨_, hb⟩)
          · exact hframe
          · exact hframes b hb
        · rw [List.length_append, List.length_singleton]
          omega

/-- However the tasks have been interleaved, they can finish what they have begun
without another frame: none waits for another for good, and then no memory is in use
except that of a message no task has taken yet. -/
theorem settles_run [Fintype ι] (run : Run (step cfg) (Regular cfg) (start rx) as s) :
    ∃ bs s', Run (step cfg) (Regular cfg) s bs s' ∧ (∀ a ∈ bs, isFrame a = false) ∧
      bs.length ≤ 9 + 7 * Fintype.card ι ∧ Settled s' ∧
      ∀ a, s'.shared.heap.isLive a = true → a ∈ queueBlocks s'.shared := by
  obtain ⟨bs, s', hafter, hframes, hlength, hsettled⟩ := settles_of_rank _ run systemRank_le
  refine ⟨bs, s', hafter, hframes, hlength, hsettled, ?_⟩
  intro a ha
  rcases liveOwned_run (run.trans hafter) (fun _ _ h => h.2) a ha with hw | hq | ⟨t, ht⟩
  · rw [hsettled.1] at hw
    cases hw
  · exact hq
  · rw [hsettled.2 t] at ht
    cases ht

/-- A frame is in the middle of displacing another while the endpoint polls. -/
theorem settles_displacing :
    ∃ s, Run (step gpioEndpoints) (Regular gpioEndpoints) (start [])
      (storeFrame [1, 0, 2, 7] 0 1 ++ (.frame [2, 1, 3, 7] ::
        TaskSteps.websocketSteps [some 2, some 3, none, none] ++ endpointSteps () 2)) s ∧
    ∃ bs s', Run (step gpioEndpoints) (Regular gpioEndpoints) s bs s' ∧
      (∀ a ∈ bs, isFrame a = false) ∧ bs.length ≤ 9 + 7 * Fintype.card Unit ∧ Settled s' ∧
      ∀ a, s'.shared.heap.isLive a = true → a ∈ queueBlocks s'.shared := by
  obtain ⟨s, run⟩ := Run.exists_of_exec (step gpioEndpoints) (Regular gpioEndpoints) (start [])
    (storeFrame [1, 0, 2, 7] 0 1 ++ (.frame [2, 1, 3, 7] ::
      TaskSteps.websocketSteps [some 2, some 3, none, none] ++ endpointSteps () 2)) (by decide)
  exact ⟨s, run, settles_run run⟩

end Settling

end Esp32Iot.TaskProgress
