import Mathlib.Algebra.BigOperators.Group.Finset.Basic
import Mathlib.Algebra.Order.BigOperators.Group.Finset
import Esp32Iot.Connections

namespace Esp32Iot.ReplyCount

open Esp32Iot.Communication
open Esp32Iot.Connections (connectFirst receiveAndStore dropAndReconnect pollAndAnswer)
open Esp32Iot.Firmware (replyOf newReplies sendReplies Sent tasksAction StepsTasks)
open Esp32Iot.FrameMessages
open Esp32Iot.GuardedRun
open Esp32Iot.Mailbox
open Esp32Iot.MessageMemory
open Esp32Iot.TaskHistory
open Esp32Iot.TaskOrder
open Esp32Iot.TaskOwnership
open Esp32Iot.TaskSteps
open Esp32Iot.WebsocketClient

def replies (s : SharedState) : List (List UInt8) := s.trace.filterMap replyOf

/-- The websocket task has not handed on its frame's message yet. -/
def receiving : WebsocketPc → Nat
  | .idle | .crashed => 0
  | _ => 1

/-- The status has not been sent at this point of `onRecieve`. -/
def callBackOpen : CallBackPc → Nat
  | .reply => 1
  | .freeData | .freeMessage => 0

def websocketOpen : WebsocketPc → Nat
  | .callBack _ _ pc => callBackOpen pc
  | _ => 0

def endpointOpen : EndpointPc → Nat
  | .handle _ => 1
  | .callBack _ _ pc => callBackOpen pc
  | _ => 0

variable {ι : Type*}

/-- How many frames are being worked on: the one being parsed, the pending one, and
those in the hands of a task that has not answered them. -/
def outstanding [Fintype ι] (s : State ι) : Nat :=
  receiving s.websocket + uxQueueMessagesWaiting s.shared.xMailboxIncomingQueue +
    websocketOpen s.websocket + ∑ t, endpointOpen (s.endpoint t)

section Steps

variable {s s' : SharedState} {env : Env}

theorem replies_of_log {e : Option Event} (htrace : s'.trace = s.trace ++ e.toList)
    (hnone : ∀ x ∈ e, replyOf x = none) : replies s' = replies s :=
  filterMap_log htrace hnone

theorem replies_concat {e : Event} {reply : List UInt8} (htrace : s'.trace = s.trace ++ [e])
    (hreply : replyOf e = some reply) : replies s' = replies s ++ [reply] := by
  rw [replies, htrace, List.filterMap_append]
  simp [replies, hreply]

/-- Inside `onRecieve` one reply is made, at the first step. -/
theorem CallBackMove.replies {p : MsgPtr} {status : Int} {pc : CallBackPc}
    {next : Option CallBackPc} (move : CallBackMove s env p status pc s' next) :
    (replies s').length = (replies s).length + callBackOpen pc ∧
      ∀ pc', next = some pc' → callBackOpen pc' = 0 := by
  cases move with
  | reply known =>
      constructor
      · rw [replies_concat rfl rfl, List.length_append]
        rfl
      · rintro pc' ⟨⟩
        rfl
  | freeData =>
      constructor
      · rfl
      · rintro pc' ⟨⟩
        rfl
  | freeMessage =>
      constructor
      · rw [replies_of_log (e := some _) rfl (by rintro x ⟨⟩; rfl)]
        rfl
      · rintro pc' ⟨⟩

theorem waiting_of_some {q : MsgPtr} (hq : s.xMailboxIncomingQueue = some q) :
    uxQueueMessagesWaiting s.xMailboxIncomingQueue = 1 := by
  rw [hq]
  rfl

theorem waiting_of_none (hq : s.xMailboxIncomingQueue = none) :
    uxQueueMessagesWaiting s.xMailboxIncomingQueue = 0 := by
  rw [hq]
  rfl

/-- The websocket task turns what it works on into replies, or hands it on. -/
theorem WebsocketMove.counted {pc pc' : WebsocketPc} (move : WebsocketMove s env pc s' pc')
    (hslot : SlotInv s pc) (hmem : WebsocketMemory s pc) :
    (replies s').length + (receiving pc' +
        uxQueueMessagesWaiting s'.xMailboxIncomingQueue + websocketOpen pc') =
      (replies s).length + (receiving pc +
        uxQueueMessagesWaiting s.xMailboxIncomingQueue + websocketOpen pc) := by
  cases move with
  | refuse len =>
      have hreplies : replies (refuseMessage (dataEvent s len) s) = replies s ++ [_] :=
        replies_concat rfl rfl
      rw [hreplies, List.length_append]
      simp only [receiving, websocketOpen, refuseMessage, SharedState.log, List.length_singleton]
      omega
  | received p prevMessage full =>
      rw [waiting_of_some full,
        replies_of_log (s := s) (e := some _) rfl (by rintro x ⟨⟩; rfl)]
      rfl
  | inCallBack p prevMessage pc pc' s' move =>
      obtain ⟨hreplies, hreplied⟩ := CallBackMove.replies move
      have hdone := hreplied pc' rfl
      rw [hreplies, CallBackMove.queue move]
      simp only [receiving, websocketOpen, hdone]
      omega
  | calledBack p prevMessage pc s' move =>
      obtain ⟨hreplies, -⟩ := CallBackMove.replies move
      rw [hreplies, CallBackMove.queue move]
      simp only [receiving, websocketOpen]
      omega
  | jumped p prevMessage wild => exact absurd wild (CallBackMemory.not_wild hmem.2)
  | reset p =>
      rw [waiting_of_none hslot.2]
      rfl
  | sent p empty =>
      rw [waiting_of_none empty,
        replies_of_log (s := s) (e := some _) rfl (by rintro x ⟨⟩; rfl)]
      rfl
  | notSent p q full =>
      rw [hslot.2] at full
      cases full
  | _ => rfl

theorem EndpointMove.counted {endpointId : Int}
    {handler : XMailboxMessage → List UInt8 → HandlerRun} {pc pc' : EndpointPc}
    (move : EndpointMove endpointId handler s env pc s' pc')
    (hmem : EndpointMemory endpointId s pc) :
    (replies s').length + uxQueueMessagesWaiting s'.xMailboxIncomingQueue +
        endpointOpen pc' =
      (replies s).length + uxQueueMessagesWaiting s.xMailboxIncomingQueue +
        endpointOpen pc := by
  cases move with
  | reset p =>
      rw [waiting_of_some hmem.2]
      rfl
  | handled p message pData readsMessage readsBody =>
      rw [replies_of_log (s := s) (e := some _) rfl (by rintro x ⟨⟩; rfl)]
      rfl
  | inCallBack p status pc pc' s' move =>
      obtain ⟨hreplies, hreplied⟩ := CallBackMove.replies move
      have hdone := hreplied pc' rfl
      rw [hreplies, CallBackMove.queue move]
      simp only [endpointOpen, hdone]
      omega
  | calledBack p status pc s' move =>
      obtain ⟨hreplies, -⟩ := CallBackMove.replies move
      rw [hreplies, CallBackMove.queue move]
      simp only [endpointOpen]
      omega
  | jumped p status wild => exact absurd wild (CallBackMemory.not_wild hmem)
  | _ => rfl

end Steps

section Tasks

variable [Fintype ι] [DecidableEq ι] {cfg : Endpoints ι} {s s' : State ι}

def Counted (s : State ι) : Prop :=
  s.shared.frames.length = (replies s.shared).length + outstanding s

omit [DecidableEq ι] in
theorem counted_start {rx : List UInt8} : Counted (start rx : State ι) := by
  change 0 = 0 + (0 + 0 + 0 + ∑ _ : ι, 0)
  simp

theorem sum_update (f : EndpointPc → Nat) (ep : ι → EndpointPc) (t : ι) (pc : EndpointPc) :
    ∑ u, f (Function.update ep t pc u) + f (ep t) = ∑ u, f (ep u) + f pc := by
  have hnew := Finset.add_sum_erase Finset.univ
    (fun u => f (Function.update ep t pc u)) (Finset.mem_univ t)
  have hold := Finset.add_sum_erase Finset.univ (fun u => f (ep u)) (Finset.mem_univ t)
  have hrest : ∑ u ∈ Finset.univ.erase t, f (Function.update ep t pc u) =
      ∑ u ∈ Finset.univ.erase t, f (ep u) := by
    apply Finset.sum_congr rfl
    intro u hu
    rw [Function.update_of_ne (Finset.ne_of_mem_erase hu)]
  rw [hrest] at hnew
  simp only [Function.update_self] at hnew
  omega

theorem counted_step {a : Action ι} (h : Counted s) (hslot : SlotInv s.shared s.websocket)
    (hmem : MemoryInv cfg s) (hstep : step cfg s a = some s') : Counted s' := by
  unfold Counted outstanding at h ⊢
  rcases step_cases hstep with ⟨bytes, -, hidle, rfl⟩ | ⟨env, shared, pc, -, move, rfl⟩ |
    ⟨t, env, shared, pc, -, move, rfl⟩
  · rw [hidle] at h
    simp only [receiving, websocketOpen] at h ⊢
    change (s.shared.frames ++ [bytes]).length = (replies s.shared).length + _
    rw [List.length_append, h]
    simp only [readFrame, List.length_singleton]
    omega
  · have hcounted := WebsocketMove.counted move hslot hmem.websocket
    have hframes := WebsocketMove.frames move
    simp only [hframes]
    omega
  · have hcounted := EndpointMove.counted move (hmem.task t)
    have hframes := EndpointMove.frames move
    have hsum := sum_update endpointOpen s.endpoint t pc
    simp only [hframes]
    omega

omit [DecidableEq ι] in
/-- A task has one message in its hands at most, and while the websocket task
displaces one, the mailbox is empty. -/
theorem outstanding_le (hslot : SlotInv s.shared s.websocket) :
    outstanding s ≤ Fintype.card ι + 2 := by
  have htasks : ∑ t, endpointOpen (s.endpoint t) ≤ Fintype.card ι := by
    have hone : ∀ t ∈ Finset.univ, endpointOpen (s.endpoint t) ≤ 1 := by
      intro t _
      rcases s.endpoint t with _ | _ | _ | _ | _ | ⟨p, status, _ | _ | _⟩ | _ <;>
        simp [endpointOpen, callBackOpen]
    have hle := Finset.sum_le_card_nsmul Finset.univ _ 1 hone
    simpa using hle
  have hproducer : uxQueueMessagesWaiting s.shared.xMailboxIncomingQueue +
      websocketOpen s.websocket ≤ 1 := by
    cases hpc : s.websocket with
    | callBack p prevMessage pc =>
        rw [hpc] at hslot
        rw [waiting_of_none hslot.2]
        cases pc <;> simp [websocketOpen, callBackOpen]
    | _ =>
        simp only [websocketOpen]
        unfold uxQueueMessagesWaiting
        split <;> simp
  have hreceiving : receiving s.websocket ≤ 1 := by
    cases s.websocket <;> simp [receiving]
  unfold outstanding
  omega

theorem counted_run {guard : State ι → Action ι → Prop} {rx : List UInt8}
    {as : List (Action ι)} (run : Run (step cfg) guard (start rx) as s)
    (hguard : ∀ u a, guard u a → BodyCopied u a ∧ TakesAlone cfg u a) : Counted s := by
  apply run.invariant counted_start
  intro bs u a v hbefore hu _ hstep
  exact counted_step hu (orderInv_run hbefore).slot (owns_run hbefore hguard).1 hstep

end Tasks

section Firmware

variable [DecidableEq ι] {cfg : Endpoints ι} {s s' : Firmware.State ι}

theorem replies_append {s s' : SharedState} {events : List Event}
    (htrace : s'.trace = s.trace ++ events) : replies s' = replies s ++ newReplies s s' := by
  rw [replies, newReplies, htrace, List.drop_left, List.filterMap_append]
  rfl

theorem trace_of_step {s s' : State ι} {a : Action ι} (hstep : step cfg s a = some s') :
    ∃ events, s'.shared.trace = s.shared.trace ++ events := by
  rcases step_cases hstep with ⟨bytes, -, -, rfl⟩ | ⟨env, shared, pc, -, move, rfl⟩ |
    ⟨t, env, shared, pc, -, move, rfl⟩
  · exact ⟨[], (List.append_nil _).symm⟩
  · obtain ⟨e, htrace, -⟩ := WebsocketMove.log move
    exact ⟨e.toList, htrace⟩
  · obtain ⟨e, htrace, -⟩ := EndpointMove.log move
    exact ⟨e.toList, htrace⟩

/-- Every reply is handed to `esp_websocket_client_send` when it is made. -/
theorem sends_run {guard : Firmware.State ι → Firmware.Action ι → Prop} {network : Bool}
    {r p : UInt64} {rx : List UInt8} {as : List (Firmware.Action ι)}
    (run : Run (Firmware.step cfg) guard (Firmware.start network r p rx) as s) :
    s.sends.map (·.reply) = replies s.tasks.shared := by
  apply run.invariant (P := fun u => u.sends.map (·.reply) = replies u.tasks.shared) rfl
  intro bs u a v _ hu _ hstep
  rcases Firmware.step_tasks hstep with ⟨-, htasks, hsends⟩ | ⟨b, -, hsteps⟩
  · rw [htasks, hsends]
    exact hu
  · obtain ⟨events, htrace⟩ := trace_of_step hsteps.next
    obtain ⟨sends, hsends, hreplies, -⟩ := hsteps.sends
    rw [hsends, List.map_append, hu, hreplies, replies_append htrace]

/-- Bodies are copied, and messages are taken by one task alone. -/
def UndisturbedTasks (cfg : Endpoints ι) (s : Firmware.State ι) (a : Firmware.Action ι) : Prop :=
  ∀ b ∈ tasksAction s a, BodyCopied s.tasks b ∧ TakesAlone cfg s.tasks b

instance [Fintype ι] (s : Firmware.State ι) (a : Firmware.Action ι) :
    Decidable (UndisturbedTasks cfg s a) :=
  inferInstanceAs (Decidable (∀ b ∈ tasksAction s a, _ ∧ _))

/-- Every reply is sent once, in the order in which they are made; and all frames
but those that are being worked on have had theirs. -/
structure RepliesSent [Fintype ι] (s : Firmware.State ι) : Prop where
  inOrder : s.sends.map (·.reply) = replies s.tasks.shared
  counted : s.tasks.shared.frames.length = s.sends.length + outstanding s.tasks
  bounded : outstanding s.tasks ≤ Fintype.card ι + 2

theorem repliesSent_run [Fintype ι] {network : Bool} {r p : UInt64} {rx : List UInt8}
    {as : List (Firmware.Action ι)}
    (run : Run (Firmware.step cfg) (UndisturbedTasks cfg) (Firmware.start network r p rx) as s) :
    RepliesSent s := by
  obtain ⟨bs, hrun⟩ : ∃ bs, Run (step cfg) (fun u b => BodyCopied u b ∧ TakesAlone cfg u b)
      (start rx) bs s.tasks := Firmware.tasks_run_of_guard run fun _ _ hua => hua
  have hsends := sends_run run
  have hcounted : s.tasks.shared.frames.length =
      (replies s.tasks.shared).length + outstanding s.tasks := counted_run hrun fun _ _ hub => hub
  have hlength := congrArg List.length hsends
  rw [List.length_map] at hlength
  refine ⟨hsends, ?_, outstanding_le (orderInv_run hrun).slot⟩
  rw [hlength]
  exact hcounted

end Firmware

theorem repliesSent_reconnected :
    ∃ s, Run (Firmware.step gpioEndpoints) (UndisturbedTasks gpioEndpoints)
        (Firmware.start true 0 0 [])
        (connectFirst ++ receiveAndStore [1, 7, 2, 4] 0 1 ++ pollAndAnswer () ++
          receiveAndStore [1, 8, 3, 4] 0 1 ++ dropAndReconnect) s ∧
      (s.sends.map (·.reply) = [[1, 0, 7]] ∧ outstanding s.tasks = 1) ∧ RepliesSent s := by
  obtain ⟨s, run, htest⟩ := Run.exists_of_exec_any (Firmware.step gpioEndpoints)
    (UndisturbedTasks gpioEndpoints) (Firmware.start true 0 0 [])
    (connectFirst ++ receiveAndStore [1, 7, 2, 4] 0 1 ++ pollAndAnswer () ++
      receiveAndStore [1, 8, 3, 4] 0 1 ++ dropAndReconnect)
    (fun s => s.sends.map (·.reply) = [[1, 0, 7]] ∧ outstanding s.tasks = 1) (by decide)
  exact ⟨s, run, of_decide_eq_true htest, repliesSent_run run⟩

end Esp32Iot.ReplyCount
