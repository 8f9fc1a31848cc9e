import Esp32Iot.Connections

namespace Esp32Iot.ClientEvents

open Esp32Iot.AppState
open Esp32Iot.Connections
open Esp32Iot.Firmware
open Esp32Iot.GuardedRun
open Esp32Iot.ServerConnection
open Esp32Iot.TaskSteps (Endpoints Env)
open Esp32Iot.WebsocketClient

def linkAfter (linked : Bool) : ClientEvent → Bool
  | .connected => true
  | .disconnected => false
  | .data _ => linked

/-- The last word about the connection was that it is up. -/
def linked (events : List ClientEvent) : Bool := events.foldl linkAfter false

def frameOf : ClientEvent → Option (List UInt8)
  | .data bytes => some bytes
  | .connected | .disconnected => none

/-- Data comes only over a connection that has been announced, and no connection is
announced twice. A connection that cannot be made is reported as lost. -/
def EventAllowed (before : List ClientEvent) : ClientEvent → Prop
  | .connected => linked before = false
  | .data _ => linked before = true
  | .disconnected => True

theorem linked_concat (events : List ClientEvent) (event : ClientEvent) :
    linked (events ++ [event]) = linkAfter (linked events) event := by
  simp [linked, List.foldl_append]

variable {ι : Type*} [DecidableEq ι]

/-- The firmware with the events that have been dispatched, which are ghost. -/
structure State (ι : Type*) where
  firmware : Firmware.State ι
  events : List ClientEvent

def start (network : Bool) (reconnectTickMs pingTickMs : UInt64) (rxBuffer : List UInt8) :
    State ι where
  firmware := Firmware.start network reconnectTickMs pingTickMs rxBuffer
  events := []

def dispatched (s : Firmware.State ι) : Firmware.Action ι → Option ClientEvent
  | .client _ =>
      match s.pc with
      | .dispatch event => some event
      | _ => none
  | .handler _ _ | .endpoint _ _ _ | .system _ => none

def step (cfg : Endpoints ι) (s : State ι) (a : Firmware.Action ι) : Option (State ι) :=
  (Firmware.step cfg s.firmware a).map fun firmware =>
    { firmware := firmware
      events := s.events ++ (dispatched s.firmware a).toList }

variable {cfg : Endpoints ι} {s s' : Firmware.State ι} {a : Firmware.Action ι}

/-- A step in which no event is dispatched. -/
inductive SilentMove (s s' : Firmware.State ι) : Prop
  | turn (env : ClientEnv) (next : clientStep s.client env s.pc = some (s'.client, s'.pc))
      (bits : s'.xAppStateEventGroup = s.xAppStateEventGroup) (tasks : s'.tasks = s.tasks)
  | handled (handling : s.pc = .handling) (result : s' = { s with pc := .loopHead })
  | beside (client : s'.client = s.client) (pc : s'.pc = s.pc)
      (bits : connectedToServer s'.xAppStateEventGroup = connectedToServer s.xAppStateEventGroup)
      (frames : s'.tasks.shared.frames = s.tasks.shared.frames)

theorem silentMove_of_tasksStep {sendEnv : SendEnv} {sender : Option ι}
    {b : TaskSteps.Action ι} (hframe : ∀ bytes, b ≠ .frame bytes)
    (h : tasksStep cfg s sendEnv sender b = some s') : SilentMove s s' := by
  obtain ⟨tasks, sends, move⟩ := tasksStep_move h
  have hframes : tasks.shared.frames = s.tasks.shared.frames := by
    rcases frames_of_step move.next with hsame | ⟨bytes, hb, -⟩
    · exact hsame
    · exact absurd hb (hframe bytes)
  rw [move.result]
  exact .beside rfl rfl rfl hframes

theorem step_dispatched (h : Firmware.step cfg s a = some s') :
    (∃ event, dispatched s a = some event ∧ s.pc = .dispatch event ∧
      vWebsocketEventHandler cfg s event = some s') ∨
    (dispatched s a = none ∧ SilentMove s s') := by
  cases a with
  | client env =>
      simp only [Firmware.step] at h
      split at h
      · rename_i event hpc
        exact .inl ⟨event, by simp only [dispatched, hpc], hpc, h⟩
      · rename_i hpc
        split at h
        · cases h
          exact .inr ⟨by simp only [dispatched, hpc], .handled hpc rfl⟩
        · cases h
      · obtain ⟨r, hturn, rfl⟩ := Option.map_eq_some_iff.mp h
        exact .inr ⟨by simp only [dispatched], .turn env hturn rfl rfl⟩
  | handler env sendEnv =>
      simp only [Firmware.step] at h
      split at h
      · exact .inr ⟨rfl, silentMove_of_tasksStep (by simp) h⟩
      · cases h
  | endpoint t env sendEnv => exact .inr ⟨rfl, silentMove_of_tasksStep (by simp) h⟩
  | system event =>
      cases h
      exact .inr ⟨rfl, .beside rfl rfl (connectedToServer_xEventHandler event _) rfl⟩

/-- Once the task has entered, it runs as long as there is a transport, and without
one it has nothing to do but leave. -/
def Persists (client : Client) (pc : ClientPc) : Prop :=
  client.autoReconnect = true ∧ (pc ≠ .enter →
    (client.transport = true → client.run = true ∧ pc ≠ .leave ∧ pc ≠ .stopped) ∧
    (client.transport = false → client.run = false ∧
      (pc = .loopHead ∨ pc = .leave ∨ pc = .stopped)))

theorem Persists.up {client : Client} {pc : ClientPc} (hauto : client.autoReconnect = true)
    (hrun : client.run = true) (htransport : client.transport = true) (hleave : pc ≠ .leave)
    (hstopped : pc ≠ .stopped) : Persists client pc := by
  refine ⟨hauto, fun _ => ⟨fun _ => ⟨hrun, hleave, hstopped⟩, ?_⟩⟩
  intro hnone
  cases htransport.symm.trans hnone

theorem Persists.working {client : Client} {pc : ClientPc} (h : Persists client pc)
    (henter : pc ≠ .enter) (hidle : pc ≠ .loopHead ∧ pc ≠ .leave ∧ pc ≠ .stopped) :
    client.run = true ∧ client.transport = true := by
  obtain ⟨hup, hdown⟩ := h.2 henter
  cases htransport : client.transport with
  | true => exact ⟨(hup htransport).1, rfl⟩
  | false =>
      obtain ⟨-, hpc⟩ := hdown htransport
      rcases hpc with hpc | hpc | hpc
      · exact absurd hpc hidle.1
      · exact absurd hpc hidle.2.1
      · exact absurd hpc hidle.2.2

theorem switchStep_persists {client : Client} {env : ClientEnv}
    (hauto : client.autoReconnect = true) (hrun : client.run = true)
    (htransport : client.transport = true) :
    Persists (switchStep client env).1 (switchStep client env).2 := by
  unfold switchStep
  split
  · rw [if_pos htransport]
    exact .up hauto hrun htransport (by simp) (by simp)
  · exact .up hauto hrun htransport (by simp) (by simp)
  · rw [if_pos hauto]
    split
    · exact .up hauto hrun htransport (by simp) (by simp)
    · exact .up hauto hrun htransport (by simp) (by simp)
  · exact .up hauto hrun htransport (by simp) (by simp)
  · exact .up hauto hrun htransport (by simp) (by simp)

theorem afterPing_persists {client : Client} {env : ClientEnv} {readSelect : Int}
    (hauto : client.autoReconnect = true) (hrun : client.run = true)
    (htransport : client.transport = true) :
    Persists (afterPing client env readSelect).1 (afterPing client env readSelect).2 := by
  unfold afterPing
  split
  · exact .up hauto hrun htransport (by simp) (by simp)
  · exact .up hauto hrun htransport (by simp) (by simp)

theorem pingStep_persists {client : Client} {env : ClientEnv} {readSelect : Int}
    (hauto : client.autoReconnect = true) (hrun : client.run = true)
    (htransport : client.transport = true) :
    Persists (pingStep client env readSelect).1 (pingStep client env readSelect).2 := by
  unfold pingStep
  split
  · exact .up hauto hrun htransport (by simp) (by simp)
  · exact afterPing_persists hauto hrun htransport

theorem clientStep_persists {client client' : Client} {env : ClientEnv} {pc pc' : ClientPc}
    (h : Persists client pc) (hstep : clientStep client env pc = some (client', pc')) :
    Persists client' pc' := by
  have hauto := h.1
  cases pc with
  | enter =>
      cases hstep
      cases htransport : env.transport with
      | true => exact .up hauto rfl rfl (by simp) (by simp)
      | false =>
          refine ⟨hauto, fun _ => ⟨?_, fun _ => ⟨rfl, .inl rfl⟩⟩⟩
          intro hup
          cases hup
  | loopHead =>
      obtain ⟨hup, hdown⟩ := h.2 (by simp)
      simp only [clientStep] at hstep
      split at hstep
      · rename_i hrun
        have htransport : client.transport = true := by
          rw [← Bool.not_eq_false]
          intro hnone
          cases hrun.symm.trans (hdown hnone).1
        have hturn : switchStep client env = (client', pc') := Option.some.inj hstep
        have hpersists : Persists (switchStep client env).1 (switchStep client env).2 :=
          switchStep_persists hauto hrun htransport
        rw [hturn] at hpersists
        exact hpersists
      · rename_i hrun
        cases hstep
        refine ⟨hauto, fun _ => ⟨?_, fun hnone => ⟨(hdown hnone).1, .inr (.inl rfl)⟩⟩⟩
        intro htransport
        exact absurd (hup htransport).1 hrun
  | connect =>
      obtain ⟨hrun, htransport⟩ := h.working (by simp) (by simp)
      simp only [clientStep] at hstep
      split at hstep
      · cases hstep
        exact .up hauto hrun htransport (by simp) (by simp)
      · cases hstep
        exact .up hauto hrun htransport (by simp) (by simp)
  | pollRead =>
      obtain ⟨hrun, htransport⟩ := h.working (by simp) (by simp)
      simp only [clientStep] at hstep
      split at hstep
      · cases hstep
        exact .up hauto hrun htransport (by simp) (by simp)
      · cases hstep
        exact .up hauto hrun htransport (by simp) (by simp)
  | ping readSelect =>
      obtain ⟨hrun, htransport⟩ := h.working (by simp) (by simp)
      have hturn : pingStep client env readSelect = (client', pc') := Option.some.inj hstep
      have hpersists : Persists (pingStep client env readSelect).1
          (pingStep client env readSelect).2 := pingStep_persists hauto hrun htransport
      rw [hturn] at hpersists
      exact hpersists
  | writePing readSelect =>
      obtain ⟨hrun, htransport⟩ := h.working (by simp) (by simp)
      have hturn : afterPing client env readSelect = (client', pc') := Option.some.inj hstep
      have hpersists : Persists (afterPing client env readSelect).1
          (afterPing client env readSelect).2 := afterPing_persists hauto hrun htransport
      rw [hturn] at hpersists
      exact hpersists
  | read =>
      obtain ⟨hrun, htransport⟩ := h.working (by simp) (by simp)
      simp only [clientStep] at hstep
      split at hstep
      · cases hstep
        exact .up hauto hrun htransport (by simp) (by simp)
      · split at hstep
        · cases hstep
        · split at hstep
          · cases hstep
            exact .up hauto hrun htransport (by simp) (by simp)
          · cases hstep
            exact .up hauto hrun htransport (by simp) (by simp)
  | abortConnection =>
      obtain ⟨hrun, htransport⟩ := h.working (by simp) (by simp)
      cases hstep
      exact .up hauto hrun htransport (by simp) (by simp)
  | leave =>
      obtain ⟨hup, hdown⟩ := h.2 (by simp)
      cases hstep
      refine ⟨hauto, fun _ => ⟨?_, fun hnone => ⟨(hdown hnone).1, .inr (.inr rfl)⟩⟩⟩
      intro htransport
      exact absurd rfl (hup htransport).2.1
  | dispatch _ | handling | stopped => cases hstep

/-- What the events so far say about the state, the bit, and the frames. -/
structure EventInv (s : Firmware.State ι) (events : List ClientEvent) : Prop where
  allowed : Ordered EventAllowed events
  agrees : Agrees (linked events) s.client.state s.pc
  announced : s.pc = .connect ∨ s.pc = .dispatch .connected → linked events = false
  bit : connectedToServer s.xAppStateEventGroup = linked events
  frames : s.tasks.shared.frames = events.filterMap frameOf
  persists : Persists s.client s.pc
  silent : s.pc = .enter ∨ s.client.transport = false → events = []

omit [DecidableEq ι] in
theorem eventInv_start {network : Bool} {r p : UInt64} {rx : List UInt8} :
    EventInv (Firmware.start (ι := ι) network r p rx) [] where
  allowed := ordered_nil
  agrees := rfl
  announced _ := rfl
  bit := by
    show connectedToServer (if network then _ else _) = false
    cases network <;> decide
  frames := rfl
  persists := ⟨rfl, fun h => absurd rfl h⟩
  silent _ := rfl

/-- Where a step of the client task can come from and lead to. -/
structure TurnFrom (client client' : Client) (pc pc' : ClientPc) : Prop where
  entered : pc' ≠ .enter
  transport : pc = .enter ∨ client'.transport = client.transport
  connected : pc' = .dispatch .connected → pc = .connect

theorem switchStep_from (client : Client) (env : ClientEnv) :
    TurnFrom client (switchStep client env).1 .loopHead (switchStep client env).2 := by
  unfold switchStep
  split
  · split <;> exact ⟨by simp, .inr rfl, by simp⟩
  · exact ⟨by simp, .inr rfl, by simp⟩
  · split
    · split <;> exact ⟨by simp, .inr rfl, by simp⟩
    · exact ⟨by simp, .inr rfl, by simp⟩
  · exact ⟨by simp, .inr rfl, by simp⟩
  · exact ⟨by simp, .inr rfl, by simp⟩

theorem afterPing_from (client : Client) (env : ClientEnv) (readSelect : Int) (pc : ClientPc) :
    TurnFrom client (afterPing client env readSelect).1 pc
      (afterPing client env readSelect).2 := by
  unfold afterPing
  split <;> exact ⟨by simp, .inr rfl, by simp⟩

theorem pingStep_from (client : Client) (env : ClientEnv) (readSelect : Int) :
    TurnFrom client (pingStep client env readSelect).1 (.ping readSelect)
      (pingStep client env readSelect).2 := by
  unfold pingStep
  split
  · exact ⟨by simp, .inr rfl, by simp⟩
  · exact afterPing_from client env readSelect (.ping readSelect)

theorem clientStep_from {client client' : Client} {env : ClientEnv} {pc pc' : ClientPc}
    (hstep : clientStep client env pc = some (client', pc')) :
    TurnFrom client client' pc pc' := by
  cases pc with
  | enter =>
      cases hstep
      exact ⟨by simp, .inl rfl, by simp⟩
  | loopHead =>
      simp only [clientStep] at hstep
      split at hstep
      · have hturn : switchStep client env = (client', pc') := Option.some.inj hstep
        have hfrom := switchStep_from client env
        rw [hturn] at hfrom
        exact hfrom
      · cases hstep
        exact ⟨by simp, .inr rfl, by simp⟩
  | connect =>
      simp only [clientStep] at hstep
      split at hstep
      · cases hstep
        exact ⟨by simp, .inr rfl, by simp⟩
      · cases hstep
        exact ⟨by simp, .inr rfl, fun _ => rfl⟩
  | ping readSelect =>
      have hturn : pingStep client env readSelect = (client', pc') := Option.some.inj hstep
      have hfrom := pingStep_from client env readSelect
      rw [hturn] at hfrom
      exact hfrom
  | writePing readSelect =>
      have hturn : afterPing client env readSelect = (client', pc') := Option.some.inj hstep
      have hfrom := afterPing_from client env readSelect (.writePing readSelect)
      rw [hturn] at hfrom
      exact hfrom
  | pollRead =>
      simp only [clientStep] at hstep
      split at hstep
      · cases hstep
        exact ⟨by simp, .inr rfl, by simp⟩
      · cases hstep
        exact ⟨by simp, .inr rfl, by simp⟩
  | read =>
      simp only [clientStep] at hstep
      split at hstep
      · cases hstep
        exact ⟨by simp, .inr rfl, by simp⟩
      · split at hstep
        · cases hstep
        · split at hstep
          · cases hstep
            exact ⟨by simp, .inr rfl, by simp⟩
          · cases hstep
            exact ⟨by simp, .inr rfl, by simp⟩
  | abortConnection | leave =>
      cases hstep
      exact ⟨by simp, .inr rfl, by simp⟩
  | dispatch _ | handling | stopped => cases hstep

variable {events : List ClientEvent}

omit [DecidableEq ι] in
theorem EventInv.at {pc : ClientPc} (h : EventInv s events) (hpc : s.pc = pc) :
    Agrees (linked events) s.client.state pc := by
  rw [← hpc]
  exact h.agrees

omit [DecidableEq ι] in
theorem EventInv.working {pc : ClientPc} (h : EventInv s events) (hpc : s.pc = pc)
    (henter : pc ≠ .enter) (hidle : pc ≠ .loopHead ∧ pc ≠ .leave ∧ pc ≠ .stopped) :
    s.client.run = true ∧ s.client.transport = true := by
  subst hpc
  exact h.persists.working henter hidle

omit [DecidableEq ι] in
theorem eventInv_silent (h : EventInv s events) (move : SilentMove s s') : EventInv s' events := by
  cases move with
  | turn env next bits tasks =>
      have hfrom := clientStep_from next
      have hagrees := clientStep_agrees h.agrees next
      refine ⟨h.allowed, hagrees, ?_, ?_, ?_, clientStep_persists h.persists next, ?_⟩
      · rintro (hpc | hpc)
        · rw [hpc] at hagrees
          exact hagrees
        · exact h.announced (.inl (hfrom.connected hpc))
      · rw [bits]
        exact h.bit
      · rw [tasks]
        exact h.frames
      · rintro (hpc | hnone)
        · exact absurd hpc hfrom.entered
        · rcases hfrom.transport with hpc | hsame
          · exact h.silent (.inl hpc)
          · exact h.silent (.inr (hsame.symm.trans hnone))
  | handled handling result =>
      subst result
      obtain ⟨hlinked, hstate⟩ := h.at handling
      obtain ⟨hrun, htransport⟩ := h.working handling (by simp) (by simp)
      refine ⟨h.allowed, ?_, by simp, h.bit, h.frames, ?_, ?_⟩
      · show linked events = decide (_ = _)
        rw [hlinked, hstate]
        rfl
      · exact .up h.persists.1 hrun htransport (by simp) (by simp)
      · rintro (hpc | hnone)
        · cases hpc
        · exact h.silent (.inr hnone)
  | beside client pc bits frames =>
      obtain ⟨hallowed, hagrees, hannounced, hbit, hframes, hpersists, hsilent⟩ := h
      rw [← client, ← pc] at hagrees hpersists
      rw [← client] at hsilent
      rw [← pc] at hannounced hsilent
      exact ⟨hallowed, hagrees, hannounced, bits.trans hbit, frames.trans hframes, hpersists,
        hsilent⟩

theorem eventInv_dispatched {event : ClientEvent} (h : EventInv s events)
    (hpc : s.pc = .dispatch event) (hstep : vWebsocketEventHandler cfg s event = some s') :
    EventInv s' (events ++ [event]) := by
  obtain ⟨hrun, htransport⟩ := h.working hpc (by simp) (by simp)
  have hagrees := h.at hpc
  have hlinked := linked_concat events event
  have hframes : (events ++ [event]).filterMap frameOf =
      s.tasks.shared.frames ++ (frameOf event).toList := by
    rw [List.filterMap_append, ← h.frames]
    cases event <;> rfl
  cases event with
  | connected =>
      cases hstep
      refine ⟨ordered_concat.mpr ⟨h.allowed, h.announced (.inr hpc)⟩, ?_, by simp, ?_, ?_, ?_, ?_⟩
      · show linked _ = decide (_ = _)
        have hstate : s.client.state = .connected := hagrees
        rw [hlinked, hstate]
        rfl
      · rw [hlinked]
        exact connectedToServer_set
      · rw [hframes]
        exact (List.append_nil _).symm
      · exact .up h.persists.1 hrun htransport (by simp) (by simp)
      · rintro (hpc | hnone)
        · cases hpc
        · cases htransport.symm.trans hnone
  | disconnected =>
      cases hstep
      refine ⟨ordered_concat.mpr ⟨h.allowed, trivial⟩, ?_, by simp, ?_, ?_, ?_, ?_⟩
      · show linked _ = decide (_ = _)
        have hstate : s.client.state = .waitTimeout := hagrees
        rw [hlinked, hstate]
        rfl
      · rw [hlinked]
        exact connectedToServer_clear
      · rw [hframes]
        exact (List.append_nil _).symm
      · exact .up h.persists.1 hrun htransport (by simp) (by simp)
      · rintro (hpc | hnone)
        · cases hpc
        · cases htransport.symm.trans hnone
  | data bytes =>
      obtain ⟨tasks, hnext, rfl⟩ := Option.map_eq_some_iff.mp hstep
      refine ⟨ordered_concat.mpr ⟨h.allowed, hagrees.1⟩, ?_, by simp, ?_, ?_, ?_, ?_⟩
      · show linked _ = true ∧ _
        rw [hlinked]
        exact hagrees
      · rw [hlinked]
        exact h.bit
      · rw [hframes]
        rcases TaskSteps.step_cases hnext with ⟨bytes', hbytes, -, rfl⟩ |
          ⟨env, shared, pc, hother, -⟩ | ⟨t, env, shared, pc, hother, -⟩
        · cases hbytes
          rfl
        · cases hother
        · cases hother
      · exact .up h.persists.1 hrun htransport (by simp) (by simp)
      · rintro (hpc | hnone)
        · cases hpc
        · cases htransport.symm.trans hnone

/-- The handlers are told of the connection in turn, the bit is that of the last event,
the mailbox has received exactly the data events, and the client task does not give up;
without a transport it never says anything. -/
structure EventProtocol (s : State ι) : Prop where
  allowed : Ordered EventAllowed s.events
  bit : connectedToServer s.firmware.xAppStateEventGroup = linked s.events
  frames : s.firmware.tasks.shared.frames = s.events.filterMap frameOf
  persists : s.firmware.pc ≠ .enter → s.firmware.client.transport = true →
    s.firmware.client.run = true ∧ s.firmware.pc ≠ .leave ∧ s.firmware.pc ≠ .stopped
  silent : s.firmware.client.transport = false → s.events = []

theorem eventProtocol_run {network : Bool} {r p : UInt64} {rx : List UInt8}
    {as : List (Firmware.Action ι)} {s : State ι}
    (run : Run (step cfg) Free (start network r p rx) as s) : EventProtocol s := by
  have hinv : EventInv s.firmware s.events := by
    apply run.invariant (P := fun u => EventInv u.firmware u.events)
    · exact eventInv_start
    · intro bs u a v _ hu _ hstep
      obtain ⟨firmware, hfirmware, rfl⟩ := Option.map_eq_some_iff.mp hstep
      rcases step_dispatched hfirmware with ⟨event, hevent, hpc, hhandler⟩ | ⟨hnone, hmove⟩
      · rw [hevent]
        exact eventInv_dispatched hu hpc hhandler
      · rw [hnone, Option.toList_none, List.append_nil]
        exact eventInv_silent hu hmove
  refine ⟨hinv.allowed, hinv.bit, hinv.frames, ?_, fun hnone => hinv.silent (.inr hnone)⟩
  intro henter htransport
  exact (hinv.persists.2 henter).1 htransport

theorem eventProtocol_dropped : ∃ s,
    Run (step TaskSteps.gpioEndpoints) Free (start true 0 0 []) refuseAndDrop s ∧
    s.events = [.connected, .data [1, 7, 2, 4], .disconnected] ∧ EventProtocol s := by
  obtain ⟨s, run, hevents⟩ := Run.exists_of_exec_any (step TaskSteps.gpioEndpoints) Free
    (start true 0 0 []) refuseAndDrop
    (fun s => s.events = [.connected, .data [1, 7, 2, 4], .disconnected]) (by decide)
  exact ⟨s, run, of_decide_eq_true hevents, eventProtocol_run run⟩

end Esp32Iot.ClientEvents
