import Esp32Iot.Firmware

namespace Esp32Iot.ServerConnection

open Esp32Iot.AppState
open Esp32Iot.Firmware
open Esp32Iot.GuardedRun
open Esp32Iot.TaskSteps
open Esp32Iot.WebsocketClient

variable {ι : Type*} [DecidableEq ι] {cfg : Endpoints ι} {s s' : Firmware.State ι}

/-- The bit and the state agree as far as the client task has come, the data
handler runs inside it only, and no send of the handler has been refused for want
of a connection. -/
structure ConnectionInv (s : Firmware.State ι) : Prop where
  agrees : Agrees (connectedToServer s.xAppStateEventGroup) s.client.state s.pc
  inHandler : s.tasks.websocket ≠ .idle → s.pc = .handling
  accepted : ∀ sent ∈ s.sends, sent.sender = none → sent.sendExit ≠ .notConnected

omit [DecidableEq ι] in
theorem connectionInv_start {network : Bool} {r p : UInt64} {rx : List UInt8} :
    ConnectionInv (Firmware.start (ι := ι) network r p rx) where
  agrees := by
    change connectedToServer (if network then xEventGroupSetBits 0 statusConnectedToNetwork
      else 0) = false
    cases network <;> decide
  inHandler h := absurd rfl h
  accepted := by simp [Firmware.start]

omit [DecidableEq ι] in
theorem ConnectionInv.at {pc : ClientPc} (h : ConnectionInv s) (hpc : s.pc = pc) :
    Agrees (connectedToServer s.xAppStateEventGroup) s.client.state pc := by
  rw [← hpc]
  exact h.agrees

theorem connectedToServer_xEventHandler (event : SystemEvent) (bits : EventBits) :
    connectedToServer (xEventHandler event bits) = connectedToServer bits := by
  cases event with
  | staStart | other => rfl
  | staGotIp => exact connectedToServer_set_other network_getLsbD_one
  | staDisconnected => exact connectedToServer_clear_other network_getLsbD_one

theorem websocket_of_endpoint {tasks tasks' : TaskSteps.State ι} {t : ι} {env : Env}
    (h : TaskSteps.step cfg tasks (.endpoint t env) = some tasks') :
    tasks'.websocket = tasks.websocket := by
  obtain ⟨-, -, rfl⟩ := Option.map_eq_some_iff.mp h
  rfl

omit [DecidableEq ι] in
theorem idle_of_turn {client : Client} {env : ClientEnv} {r : Client × ClientPc}
    (h : ConnectionInv s) (hturn : clientStep client env s.pc = some r) :
    s.tasks.websocket = .idle := by
  by_contra hne
  rw [h.inHandler hne] at hturn
  cases hturn

/-- A send of the data handler finds the client connected. -/
theorem accepted_of_handler {sender : Option ι} {action : TaskSteps.Action ι}
    {tasks : TaskSteps.State ι} {sends : List (Sent ι)} (h : ConnectionInv s)
    (move : TasksMove cfg s sender action s' tasks sends)
    (hconnected : sender = none → s.client.state = .connected) :
    ∀ sent ∈ s'.sends, sent.sender = none → sent.sendExit ≠ .notConnected := by
  rw [move.result]
  intro sent hmem hsender
  rcases List.mem_append.mp hmem with hold | hnew
  · exact h.accepted sent hold hsender
  · obtain ⟨hby, sendEnv, hexit⟩ := move.sent sent hnew
    rintro hrefused
    rw [hrefused] at hexit
    exact send_of_connected (hconnected (hby.symm.trans hsender)) hexit

theorem connectionInv_step (h : ConnectionInv s) (move : Move cfg s s') : ConnectionInv s' := by
  cases move with
  | turn env client pc hnext =>
      refine ⟨clientStep_agrees h.agrees hnext, ?_, h.accepted⟩
      intro hne
      exact absurd (idle_of_turn h hnext) hne
  | connected hpc =>
      have hstate : s.client.state = .connected := h.at hpc
      refine ⟨?_, ?_, h.accepted⟩
      · change connectedToServer _ = decide (_ = _)
        rw [connectedToServer_set, hstate]
        rfl
      · intro hne
        cases hpc.symm.trans (h.inHandler hne)
  | disconnected hpc =>
      have hstate : s.client.state = .waitTimeout := h.at hpc
      refine ⟨?_, ?_, h.accepted⟩
      · change connectedToServer _ = decide (_ = _)
        rw [connectedToServer_clear, hstate]
        rfl
      · intro hne
        cases hpc.symm.trans (h.inHandler hne)
  | data bytes tasks hpc hnext =>
      have hboth := h.at hpc
      exact ⟨hboth, fun _ => rfl, h.accepted⟩
  | handled hpc hidle =>
      obtain ⟨hbit, hstate⟩ := h.at hpc
      refine ⟨?_, ?_, h.accepted⟩
      · change _ = decide (_ = _)
        rw [hbit, hstate]
        rfl
      · intro hne
        exact absurd hidle hne
  | handler env tasks sends s' hpc hmove =>
      have haccepted := accepted_of_handler h hmove fun _ => (h.at hpc).2
      rw [hmove.result] at haccepted ⊢
      exact ⟨h.agrees, fun _ => hpc, haccepted⟩
  | endpoint t env tasks sends s' hmove =>
      have haccepted := accepted_of_handler h hmove nofun
      rw [hmove.result] at haccepted ⊢
      refine ⟨h.agrees, ?_, haccepted⟩
      intro hne
      change tasks.websocket ≠ .idle at hne
      rw [websocket_of_endpoint hmove.next] at hne
      exact h.inHandler hne
  | system event =>
      refine ⟨?_, h.inHandler, h.accepted⟩
      change Agrees (connectedToServer (xEventHandler event _)) _ _
      rw [connectedToServer_xEventHandler]
      exact h.agrees

/-- Whenever the client task is at the head of its loop, the bit says whether the
client is connected; while it handles data both say so; and what the data handler
sends is not refused as not connected. -/
theorem connectedBit_run {network : Bool} {r p : UInt64} {rx : List UInt8}
    {as : List (Firmware.Action ι)}
    (run : Run (Firmware.step cfg) Free (Firmware.start network r p rx) as s) :
    (s.pc = .loopHead →
      (connectedToServer s.xAppStateEventGroup = true ↔ s.client.state = .connected)) ∧
    (((∃ bytes, s.pc = .dispatch (.data bytes)) ∨ s.pc = .handling ∨
        s.tasks.websocket ≠ .idle) →
      connectedToServer s.xAppStateEventGroup = true ∧ s.client.state = .connected) ∧
    ∀ sent ∈ s.sends, sent.sender = none → sent.sendExit ≠ .notConnected := by
  have hinv : ConnectionInv s :=
    run.invariant connectionInv_start fun _ _ _ _ _ h _ hstep =>
      connectionInv_step h (step_move hstep)
  refine ⟨?_, ?_, hinv.accepted⟩
  · intro hpc
    have hbit : connectedToServer s.xAppStateEventGroup = decide (s.client.state = .connected) :=
      hinv.at hpc
    rw [hbit, decide_eq_true_iff]
  · intro hhandles
    rcases hhandles with ⟨bytes, hpc⟩ | hpc | hne
    · exact hinv.at hpc
    · exact hinv.at hpc
    · exact hinv.at (hinv.inHandler hne)

def turn (result : Int) (bytes : List UInt8) : Firmware.Action ι :=
  .client ⟨true, result, bytes, 0, 0⟩

/-- The client connects, receives a frame for which there is no memory, answers
it, and loses the connection. -/
def refuseAndDrop : List (Firmware.Action ι) :=
  [turn 0 [], turn 0 [], turn 0 [], turn 0 [], turn 0 [], turn 1 [], turn 1 [],
    turn 0 [1, 7, 2, 4], turn 0 [],
    .handler ⟨none, ⟨.wild, 0, 0, 0, 0, 0⟩, []⟩ ⟨true, []⟩,
    .handler ⟨none, ⟨.wild, 0, 0, 0, 0, 0⟩, []⟩ ⟨true, [3]⟩,
    turn 0 [], turn 0 [], turn (-1) [], turn 0 [], turn 0 []]

theorem connectedBit_dropped : ∃ s,
    Run (Firmware.step gpioEndpoints) Free (Firmware.start true 0 0 []) refuseAndDrop s ∧
    (s.sends = [⟨none, [1, 1, 7], .returned 3⟩] ∧ s.pc = .loopHead) ∧
    (s.pc = .loopHead →
      (connectedToServer s.xAppStateEventGroup = true ↔ s.client.state = .connected)) ∧
    (((∃ bytes, s.pc = .dispatch (.data bytes)) ∨ s.pc = .handling ∨
        s.tasks.websocket ≠ .idle) →
      connectedToServer s.xAppStateEventGroup = true ∧ s.client.state = .connected) ∧
    ∀ sent ∈ s.sends, sent.sender = none → sent.sendExit ≠ .notConnected := by
  obtain ⟨s, hrun, htest⟩ := Run.exists_of_exec_any (Firmware.step gpioEndpoints) Free
    (Firmware.start true 0 0 []) refuseAndDrop
    (fun s => s.sends = [⟨none, [1, 1, 7], .returned 3⟩] ∧ s.pc = .loopHead) (by decide)
  exact ⟨s, hrun, of_decide_eq_true htest, connectedBit_run hrun⟩

end Esp32Iot.ServerConnection
