import Esp32Iot.AppState
import Esp32Iot.TaskSteps
import Esp32Iot.WebsocketClient

namespace Esp32Iot.Firmware

open Esp32Iot.AppState
open Esp32Iot.Communication
open Esp32Iot.GuardedRun
open Esp32Iot.Mailbox
open Esp32Iot.TaskSteps
open Esp32Iot.WebsocketClient

inductive SystemEvent
  | staStart
  | staGotIp
  | staDisconnected
  | other
  deriving DecidableEq, Repr

def xEventHandler (event : SystemEvent) (bits : EventBits) : EventBits :=
  match event with
  | .staStart => bits
  | .staGotIp => xEventGroupSetBits bits statusConnectedToNetwork
  | .staDisconnected => xEventGroupClearBits bits statusConnectedToNetwork
  | .other => bits

/-- One call of `esp_websocket_client_send` that has returned; the data handler
has no task of its own. -/
structure Sent (ι : Type*) where
  sender : Option ι
  reply : List UInt8
  sendExit : SendExit
  deriving DecidableEq, Repr

structure State (ι : Type*) where
  client : Client
  pc : ClientPc
  xAppStateEventGroup : EventBits
  tasks : TaskSteps.State ι
  sends : List (Sent ι)

inductive Action (ι : Type*)
  | client (env : ClientEnv)
  | handler (env : Env) (sendEnv : SendEnv)
  | endpoint (t : ι) (env : Env) (sendEnv : SendEnv)
  | system (event : SystemEvent)

variable {ι : Type*} [DecidableEq ι]

/-- The configuration of `xConnect` leaves these two fields zero. -/
def xConnectionConfig : ClientConfig where
  disableAutoReconnect := false
  bufferSize := 0

/-- The websocket task has just been created. The network has been there, and
may be gone again. -/
def start (network : Bool) (reconnectTickMs pingTickMs : UInt64) (rxBuffer : List UInt8) :
    State ι where
  client := espWebsocketClientInit xConnectionConfig reconnectTickMs pingTickMs
  pc := .enter
  xAppStateEventGroup := if network then xEventGroupSetBits 0 statusConnectedToNetwork else 0
  tasks := TaskSteps.start rxBuffer
  sends := []

def replyOf : Event → Option (List UInt8)
  | .answered _ _ reply => some reply
  | .refused reply => some reply
  | _ => none

def newReplies (before after : SharedState) : List (List UInt8) :=
  (after.trace.drop before.trace.length).filterMap replyOf

def sendReplies (client : Client) (sendEnv : SendEnv) (sender : Option ι) :
    List (List UInt8) → Option (List (Sent ι))
  | [] => some []
  | reply :: replies =>
      (espWebsocketClientSend client reply sendEnv).bind fun sendExit =>
        (sendReplies client sendEnv sender replies).map (⟨sender, reply, sendExit⟩ :: ·)

def tasksStep (cfg : Endpoints ι) (s : State ι) (sendEnv : SendEnv) (sender : Option ι)
    (action : TaskSteps.Action ι) : Option (State ι) := do
  let tasks ← TaskSteps.step cfg s.tasks action
  let sends ← sendReplies s.client sendEnv sender (newReplies s.tasks.shared tasks.shared)
  some { s with tasks := tasks, sends := s.sends ++ sends }

/-- `vWebsocketEventHandler`, where a data event starts the data handler. -/
def vWebsocketEventHandler (cfg : Endpoints ι) (s : State ι) : ClientEvent → Option (State ι)
  | .connected => some { s with
      xAppStateEventGroup := xEventGroupSetBits s.xAppStateEventGroup statusConnectedToServer
      pc := .loopHead }
  | .disconnected => some { s with
      xAppStateEventGroup := xEventGroupClearBits s.xAppStateEventGroup statusConnectedToServer
      pc := .loopHead }
  | .data bytes =>
      (TaskSteps.step cfg s.tasks (.frame bytes)).map fun tasks =>
        { s with tasks := tasks, pc := .handling }

/-- Every event that the client task posts is delivered: the exits of
`esp_websocket_client_dispatch_event` where posting fails are left out. -/
def step (cfg : Endpoints ι) (s : State ι) : Action ι → Option (State ι)
  | .client env =>
      match s.pc with
      | .dispatch event => vWebsocketEventHandler cfg s event
      | .handling => if s.tasks.websocket = .idle then some { s with pc := .loopHead } else none
      | pc => (clientStep s.client env pc).map fun r => { s with client := r.1, pc := r.2 }
  | .handler env sendEnv =>
      if s.pc = .handling then tasksStep cfg s sendEnv none (.websocket env) else none
  | .endpoint t env sendEnv => tasksStep cfg s sendEnv (some t) (.endpoint t env)
  | .system event => some { s with
      xAppStateEventGroup := xEventHandler event s.xAppStateEventGroup }

/-- What a step of the firmware is for the tasks that share the mailbox. -/
def tasksAction (s : State ι) : Action ι → Option (TaskSteps.Action ι)
  | .client _ =>
      match s.pc with
      | .dispatch (.data bytes) => some (.frame bytes)
      | _ => none
  | .handler env _ => some (.websocket env)
  | .endpoint t env _ => some (.endpoint t env)
  | .system _ => none

/-- `esp_websocket_client_start` creates the task of the client that `xConnect`
has initialised. -/
theorem start_enters {ι : Type*} {network : Bool} {r p : UInt64} {rx : List UInt8} :
    espWebsocketClientStart (start (ι := ι) network r p rx).client =
      some (start (ι := ι) network r p rx).pc := by
  rfl

variable {cfg : Endpoints ι} {s s' : State ι} {a : Action ι}

structure TasksMove (cfg : Endpoints ι) (s : State ι) (sender : Option ι)
    (action : TaskSteps.Action ι) (s' : State ι) (tasks : TaskSteps.State ι)
    (sends : List (Sent ι)) : Prop where
  next : TaskSteps.step cfg s.tasks action = some tasks
  result : s' = { s with tasks := tasks, sends := s.sends ++ sends }
  sent : ∀ sent ∈ sends, sent.sender = sender ∧
    ∃ sendEnv, espWebsocketClientSend s.client sent.reply sendEnv = some sent.sendExit

inductive Move (cfg : Endpoints ι) (s : State ι) : State ι → Prop
  | turn (env : ClientEnv) (client : Client) (pc : ClientPc)
      (next : clientStep s.client env s.pc = some (client, pc)) :
      Move cfg s { s with client := client, pc := pc }
  | connected (dispatched : s.pc = .dispatch .connected) : Move cfg s { s with
      xAppStateEventGroup := xEventGroupSetBits s.xAppStateEventGroup statusConnectedToServer
      pc := .loopHead }
  | disconnected (dispatched : s.pc = .dispatch .disconnected) : Move cfg s { s with
      xAppStateEventGroup := xEventGroupClearBits s.xAppStateEventGroup statusConnectedToServer
      pc := .loopHead }
  | data (bytes : List UInt8) (tasks : TaskSteps.State ι)
      (dispatched : s.pc = .dispatch (.data bytes))
      (next : TaskSteps.step cfg s.tasks (.frame bytes) = some tasks) :
      Move cfg s { s with tasks := tasks, pc := .handling }
  | handled (handling : s.pc = .handling) (idle : s.tasks.websocket = .idle) :
      Move cfg s { s with pc := .loopHead }
  | handler (env : Env) (tasks : TaskSteps.State ι) (sends : List (Sent ι)) (s' : State ι)
      (handling : s.pc = .handling)
      (move : TasksMove cfg s none (.websocket env) s' tasks sends) : Move cfg s s'
  | endpoint (t : ι) (env : Env) (tasks : TaskSteps.State ι) (sends : List (Sent ι))
      (s' : State ι) (move : TasksMove cfg s (some t) (.endpoint t env) s' tasks sends) :
      Move cfg s s'
  | system (event : SystemEvent) : Move cfg s { s with
      xAppStateEventGroup := xEventHandler event s.xAppStateEventGroup }

omit [DecidableEq ι] in
theorem sendReplies_spec {client : Client} {sendEnv : SendEnv} {sender : Option ι}
    {replies : List (List UInt8)} {sends : List (Sent ι)}
    (h : sendReplies client sendEnv sender replies = some sends) :
    ∀ sent ∈ sends, sent.sender = sender ∧
      ∃ sendEnv, espWebsocketClientSend client sent.reply sendEnv = some sent.sendExit := by
  induction replies generalizing sends with
  | nil =>
      cases h
      simp
  | cons reply replies ih =>
      obtain ⟨sendExit, hexit, h⟩ := Option.bind_eq_some_iff.mp h
      obtain ⟨rest, hrest, rfl⟩ := Option.map_eq_some_iff.mp h
      rintro sent (_ | ⟨_, hmem⟩)
      · exact ⟨rfl, sendEnv, hexit⟩
      · exact ih hrest sent hmem

theorem tasksStep_move {sendEnv : SendEnv} {sender : Option ι} {action : TaskSteps.Action ι}
    (h : tasksStep cfg s sendEnv sender action = some s') :
    ∃ tasks sends, TasksMove cfg s sender action s' tasks sends := by
  obtain ⟨tasks, hnext, h⟩ := Option.bind_eq_some_iff.mp h
  obtain ⟨sends, hsends, h⟩ := Option.bind_eq_some_iff.mp h
  cases h
  exact ⟨tasks, sends, hnext, rfl, sendReplies_spec hsends⟩

theorem step_move (h : step cfg s a = some s') : Move cfg s s' := by
  cases a with
  | client env =>
      simp only [step] at h
      split at h
      · rename_i event hpc
        cases event with
        | connected =>
            cases h
            exact .connected hpc
        | disconnected =>
            cases h
            exact .disconnected hpc
        | data bytes =>
            obtain ⟨tasks, hnext, rfl⟩ := Option.map_eq_some_iff.mp h
            exact .data bytes tasks hpc hnext
      · rename_i hpc
        split at h
        · rename_i hidle
          cases h
          exact .handled hpc hidle
        · cases h
      · obtain ⟨⟨client, pc⟩, hnext, rfl⟩ := Option.map_eq_some_iff.mp h
        exact .turn env client pc hnext
  | handler env sendEnv =>
      simp only [step] at h
      split at h
      · rename_i hpc
        obtain ⟨tasks, sends, move⟩ := tasksStep_move h
        exact .handler env tasks sends s' hpc move
      · cases h
  | endpoint t env sendEnv =>
      obtain ⟨tasks, sends, move⟩ := tasksStep_move h
      exact .endpoint t env tasks sends s' move
  | system event =>
      cases h
      exact .system event

omit [DecidableEq ι] in
theorem sendReplies_replies {client : Client} {sendEnv : SendEnv} {sender : Option ι}
    {replies : List (List UInt8)} {sends : List (Sent ι)}
    (h : sendReplies client sendEnv sender replies = some sends) :
    sends.map (·.reply) = replies := by
  induction replies generalizing sends with
  | nil =>
      cases h
      rfl
  | cons reply replies ih =>
      obtain ⟨sendExit, -, h⟩ := Option.bind_eq_some_iff.mp h
      obtain ⟨rest, hrest, rfl⟩ := Option.map_eq_some_iff.mp h
      rw [List.map_cons, ih hrest]

/-- A step of the tasks inside a step of the firmware: what they answer is sent, and
the connection stays as it is. -/
structure StepsTasks (cfg : Endpoints ι) (s : State ι) (b : TaskSteps.Action ι)
    (s' : State ι) : Prop where
  next : TaskSteps.step cfg s.tasks b = some s'.tasks
  client : s'.client = s.client
  sends : ∃ sends, s'.sends = s.sends ++ sends ∧
    sends.map (·.reply) = newReplies s.tasks.shared s'.tasks.shared ∧
    ∀ sent ∈ sends, ∃ sendEnv,
      espWebsocketClientSend s.client sent.reply sendEnv = some sent.sendExit

theorem stepsTasks_of_tasksStep {sendEnv : SendEnv} {sender : Option ι}
    {b : TaskSteps.Action ι} (h : tasksStep cfg s sendEnv sender b = some s') :
    StepsTasks cfg s b s' := by
  obtain ⟨tasks, hnext, h⟩ := Option.bind_eq_some_iff.mp h
  obtain ⟨sends, hsends, h⟩ := Option.bind_eq_some_iff.mp h
  cases h
  exact ⟨hnext, rfl, sends, rfl, sendReplies_replies hsends,
    fun sent hmem => (sendReplies_spec hsends sent hmem).2⟩

theorem newReplies_of_trace {before after : SharedState} (h : after.trace = before.trace) :
    newReplies before after = [] := by
  rw [newReplies, h, List.drop_length]
  rfl

theorem step_tasks (h : step cfg s a = some s') :
    (tasksAction s a = none ∧ s'.tasks = s.tasks ∧ s'.sends = s.sends) ∨
      ∃ b, tasksAction s a = some b ∧ StepsTasks cfg s b s' := by
  cases a with
  | client env =>
      simp only [step] at h
      split at h
      · rename_i event hpc
        cases event with
        | connected =>
            cases h
            exact .inl ⟨by simp only [tasksAction, hpc], rfl, rfl⟩
        | disconnected =>
            cases h
            exact .inl ⟨by simp only [tasksAction, hpc], rfl, rfl⟩
        | data bytes =>
            obtain ⟨tasks, hnext, rfl⟩ := Option.map_eq_some_iff.mp h
            refine .inr ⟨.frame bytes, by simp only [tasksAction, hpc], hnext, rfl, [], ?_, ?_, ?_⟩
            · exact (List.append_nil _).symm
            · simp only [TaskSteps.step] at hnext
              split at hnext
              · cases hnext
                exact (newReplies_of_trace rfl).symm
              · cases hnext
            · simp
      · rename_i hpc
        split at h
        · cases h
          exact .inl ⟨by simp only [tasksAction, hpc], rfl, rfl⟩
        · cases h
      · rename_i pc hdispatch hhandling
        obtain ⟨r, -, rfl⟩ := Option.map_eq_some_iff.mp h
        refine .inl ⟨?_, rfl, rfl⟩
        simp only [tasksAction]
        split
        · rename_i bytes hpc
          exact absurd hpc (hdispatch _)
        · rfl
  | handler env sendEnv =>
      simp only [step] at h
      split at h
      · exact .inr ⟨_, rfl, stepsTasks_of_tasksStep h⟩
      · cases h
  | endpoint t env sendEnv => exact .inr ⟨_, rfl, stepsTasks_of_tasksStep h⟩
  | system event =>
      cases h
      exact .inl ⟨rfl, rfl, rfl⟩

/-- What the firmware does to the mailbox is a run of its tasks, under every guard
that its own guard implies. -/
theorem tasks_run_of_guard {guard : State ι → Action ι → Prop}
    {guard' : TaskSteps.State ι → TaskSteps.Action ι → Prop} {network : Bool} {r p : UInt64}
    {rx : List UInt8} {as : List (Action ι)}
    (run : Run (step cfg) guard (start network r p rx) as s)
    (hguard : ∀ u a, guard u a → ∀ b ∈ tasksAction u a, guard' u.tasks b) :
    ∃ bs, Run (TaskSteps.step cfg) guard' (TaskSteps.start rx) bs s.tasks := by
  induction run with
  | nil => exact ⟨[], .nil⟩
  | snoc _ allowed next ih =>
      obtain ⟨bs, hrun⟩ := ih
      rcases step_tasks next with ⟨-, htasks, -⟩ | ⟨b, hb, hsteps⟩
      · rw [htasks]
        exact ⟨bs, hrun⟩
      · exact ⟨bs ++ [b], .snoc hrun (hguard _ _ allowed b hb) hsteps.next⟩

end Esp32Iot.Firmware
