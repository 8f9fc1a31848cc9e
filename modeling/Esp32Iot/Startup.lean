import Esp32Iot.Firmware
import Esp32Iot.Heartbeat

namespace Esp32Iot.Startup

open Esp32Iot.AppState
open Esp32Iot.Firmware (SystemEvent xConnectionConfig xEventHandler)
open Esp32Iot.GpioEndpoint
open Esp32Iot.GuardedRun
open Esp32Iot.Heartbeat (HeartbeatPc vTaskHeartbeat)
open Esp32Iot.Mailbox
open Esp32Iot.TaskSteps (Env EndpointPc endpointStep)
open Esp32Iot.WebsocketClient

inductive EspErr
  | ok
  | nvsNoFreePages
  | nvsNewVersionFound
  | other
  deriving DecidableEq, Repr

inductive Handle
  | xMailboxIncomingQueue
  | xMailboxOutcomingQueue
  | xAppStateEventGroup
  | xConnectionHandle
  deriving DecidableEq, Repr

inductive BootTask
  | vTaskCommunication
  | vTaskHeartbeat
  | vEndpointTaskGpio
  deriving DecidableEq, Repr

inductive WifiCall
  | espEventLoopInit
  | espWifiInit
  | espWifiSetStorage
  | espWifiSetMode
  | espWifiSetConfig
  | espWifiStart
  deriving DecidableEq, Repr

/-- The calls whose results are checked. -/
inductive BootCall
  | nvsFlashInit
  | nvsFlashErase
  | wifi (c : WifiCall)
  | espWebsocketClientStart
  deriving DecidableEq, Repr

inductive EventHandler
  | xWebsocketEventHandler
  | vWebsocketEventHandler
  deriving DecidableEq, Repr

inductive BootEvent
  | created (h : Handle) (ok : Bool)
  | taskCreated (t : BootTask) (ok : Bool)
  | called (c : BootCall) (result : EspErr)
  | network (event : SystemEvent)
  | networkSeen
  | registered (h : EventHandler) (result : EspErr)
  | aborted
  | nullUsed (h : Handle)
  deriving DecidableEq, Repr

inductive MainPc
  | mailboxIncoming
  | mailboxOutcoming
  | appState
  | communication
  | heartbeat
  | gpio
  | returned
  deriving DecidableEq, Repr

/-- Program points of `vTaskCommunication`; `client` is what `xWebsocketInitConnection`
is about to return. -/
inductive CommunicationPc
  | nvsFlashInit
  | nvsFlashErase
  | nvsFlashInitAgain
  | tcpipAdapterInit
  | wifi (c : WifiCall)
  | waitBits
  | clientInit
  | registerLog (client : Option Client)
  | registerData
  | logUri
  | clientStart
  | delay
  deriving DecidableEq, Repr

/-- `websocket` is the task that `esp_websocket_client_start` creates; `log` is ghost. -/
structure State where
  main : MainPc
  xMailboxIncomingQueue : Option SharedState
  xMailboxOutcomingQueue : Bool
  xAppStateEventGroup : Option EventBits
  communication : Option CommunicationPc
  heartbeat : Option HeartbeatPc
  gpio : Option EndpointPc
  wifiHandler : Bool
  xConnectionHandle : Option Client
  websocket : Option ClientPc
  halted : Bool
  log : List BootEvent

def start : State where
  main := .mailboxIncoming
  xMailboxIncomingQueue := none
  xMailboxOutcomingQueue := false
  xAppStateEventGroup := none
  communication := none
  heartbeat := none
  gpio := none
  wifiHandler := false
  xConnectionHandle := none
  websocket := none
  halted := false
  log := []

/-- Whether something can be created, what a call returns, and the clock. -/
structure BootEnv where
  ok : Bool
  result : EspErr
  reconnectTickMs : UInt64
  pingTickMs : UInt64

inductive Action
  | main (ok : Bool)
  | communication (env : BootEnv)
  | heartbeat
  | gpio (env : Env)
  | system (event : SystemEvent)

def State.event (s : State) (e : BootEvent) : State := { s with log := s.log ++ [e] }

def appMain (rxBuffer : List UInt8) (s : State) (ok : Bool) : MainPc → Option State
  | .mailboxIncoming => some { s.event (.created .xMailboxIncomingQueue ok) with
      xMailboxIncomingQueue := if ok then some (vMailboxInit rxBuffer) else none
      main := .mailboxOutcoming }
  | .mailboxOutcoming => some { s.event (.created .xMailboxOutcomingQueue ok) with
      xMailboxOutcomingQueue := ok
      main := .appState }
  | .appState => some { s.event (.created .xAppStateEventGroup ok) with
      xAppStateEventGroup := if ok then some 0 else none
      main := .communication }
  | .communication => some { s.event (.taskCreated .vTaskCommunication ok) with
      communication := if ok then some .nvsFlashInit else none
      main := .heartbeat }
  | .heartbeat => some { s.event (.taskCreated .vTaskHeartbeat ok) with
      heartbeat := if ok then some .padSelect else none
      main := .gpio }
  | .gpio => some { s.event (.taskCreated .vEndpointTaskGpio ok) with
      gpio := if ok then some .idle else none
      main := .returned }
  | .returned => none

def nullUsed (s : State) (h : Handle) : State := { s.event (.nullUsed h) with halted := true }

/-- `ESP_ERROR_CHECK` around a call of the communication task. -/
def espErrorCheck (s : State) (c : BootCall) (result : EspErr) (next : CommunicationPc) : State :=
  if result = .ok then { s.event (.called c result) with communication := some next }
  else { (s.event (.called c result)).event .aborted with halted := true }

def WifiCall.next : WifiCall → CommunicationPc
  | .espEventLoopInit => .wifi .espWifiInit
  | .espWifiInit => .wifi .espWifiSetStorage
  | .espWifiSetStorage => .wifi .espWifiSetMode
  | .espWifiSetMode => .wifi .espWifiSetConfig
  | .espWifiSetConfig => .wifi .espWifiStart
  | .espWifiStart => .waitBits

/-- `esp_websocket_register_events`, whose result nobody looks at. -/
def registerEvents (client : Option Client) (result : EspErr) : EspErr :=
  if client.isSome then result else .other

/-- `esp_websocket_client_start`, where the task may not be created. -/
def startClient (client : Client) (ok : Bool) : EspErr × Option ClientPc :=
  match espWebsocketClientStart client with
  | some pc => if ok then (.ok, some pc) else (.other, none)
  | none => (.other, none)

def vTaskCommunication (s : State) (env : BootEnv) : CommunicationPc → Option State
  | .nvsFlashInit =>
      if env.result = .nvsNoFreePages ∨ env.result = .nvsNewVersionFound then
        some { s.event (.called .nvsFlashInit env.result) with communication := some .nvsFlashErase }
      else some (espErrorCheck s .nvsFlashInit env.result .tcpipAdapterInit)
  | .nvsFlashErase => some (espErrorCheck s .nvsFlashErase env.result .nvsFlashInitAgain)
  | .nvsFlashInitAgain => some (espErrorCheck s .nvsFlashInit env.result .tcpipAdapterInit)
  | .tcpipAdapterInit => some { s with communication := some (.wifi .espEventLoopInit) }
  | .wifi c =>
      some { espErrorCheck s (.wifi c) env.result c.next with
        wifiHandler := s.wifiHandler || decide (c = .espEventLoopInit ∧ env.result = .ok) }
  | .waitBits =>
      match s.xAppStateEventGroup with
      | none => some (nullUsed s .xAppStateEventGroup)
      | some bits =>
          if bits &&& statusConnectedToNetwork ≠ 0 then
            some { s.event .networkSeen with communication := some .clientInit }
          else none
  | .clientInit =>
      let client :=
        if env.ok then some (espWebsocketClientInit xConnectionConfig env.reconnectTickMs
          env.pingTickMs)
        else none
      some { s.event (.created .xConnectionHandle env.ok) with
        communication := some (.registerLog client) }
  | .registerLog client =>
      some { s.event (.registered .xWebsocketEventHandler (registerEvents client env.result)) with
        xConnectionHandle := client
        communication := some .registerData }
  | .registerData =>
      some { s.event (.registered .vWebsocketEventHandler
          (registerEvents s.xConnectionHandle env.result)) with
        communication := some .logUri }
  | .logUri =>
      if s.xConnectionHandle.isSome then some { s with communication := some .clientStart }
      else some (nullUsed s .xConnectionHandle)
  | .clientStart =>
      match s.xConnectionHandle with
      | none => some (espErrorCheck s .espWebsocketClientStart .other .delay)
      | some client =>
          some { espErrorCheck s .espWebsocketClientStart (startClient client env.ok).1 .delay with
            websocket := (startClient client env.ok).2 }
  | .delay => some s

/-- The heartbeat looks at the event bits at one point only. -/
def heartbeatStep (s : State) : HeartbeatPc → Option State
  | .getBits =>
      match s.xAppStateEventGroup with
      | none => some (nullUsed s .xAppStateEventGroup)
      | some bits => some { s with heartbeat := some (vTaskHeartbeat bits .getBits).2 }
  | pc => some { s with heartbeat := some (vTaskHeartbeat 0 pc).2 }

def gpioStep (s : State) (env : Env) (pc : EndpointPc) : Option State :=
  match s.xMailboxIncomingQueue with
  | none => some (nullUsed s .xMailboxIncomingQueue)
  | some shared =>
      (endpointStep gpioEndpointId vMessageHandler shared env pc).map fun r =>
        { s with xMailboxIncomingQueue := some r.1, gpio := some r.2 }

def setsBits : SystemEvent → Bool
  | .staGotIp | .staDisconnected => true
  | .staStart | .other => false

/-- System events arrive from the moment their handler is installed. -/
def systemStep (s : State) (event : SystemEvent) : Option State :=
  if s.wifiHandler then
    match s.xAppStateEventGroup with
    | none => if setsBits event then some (nullUsed s .xAppStateEventGroup)
        else some (s.event (.network event))
    | some bits => some { s.event (.network event) with
        xAppStateEventGroup := some (xEventHandler event bits) }
  else none

def step (rxBuffer : List UInt8) (s : State) (a : Action) : Option State :=
  if s.halted then none
  else
    match a with
    | .main ok => appMain rxBuffer s ok s.main
    | .communication env => s.communication.bind (vTaskCommunication s env)
    | .heartbeat => s.heartbeat.bind (heartbeatStep s)
    | .gpio env => s.gpio.bind (gpioStep s env)
    | .system event => systemStep s event

/-- The chip is still running. -/
def Alive (log : List BootEvent) : Prop := .aborted ∉ log ∧ ∀ h, .nullUsed h ∉ log

def callOf : BootEvent → Option (BootCall × EspErr)
  | .called c result => some (c, result)
  | _ => none

def calls (log : List BootEvent) : List (BootCall × EspErr) := log.filterMap callOf

def HandlesCreated (log : List BootEvent) : Prop :=
  ∀ h, h ≠ .xConnectionHandle → ∃ ok, .created h ok ∈ log

def Repairable (result : EspErr) : Prop := result = .nvsNoFreePages ∨ result = .nvsNewVersionFound

/-- A checked call has failed, and it is not the first one, which is made again after an
erase. -/
def Fatal (before : List BootEvent) (c : BootCall) (result : EspErr) : Prop :=
  result ≠ .ok ∧ ¬ (calls before = [] ∧ c = .nvsFlashInit ∧ Repairable result)

-- At a fatal call the log ends with the abort.
def Stops (log : List BootEvent) : Prop :=
  ∀ before c result after, log = before ++ .called c result :: after →
    Fatal before c result → after = [.aborted]

/-- Why something happens during the start. -/
def Caused (before : List BootEvent) : BootEvent → Prop
  | .created .xConnectionHandle _ => .networkSeen ∈ before
  | .created _ _ => True
  | .taskCreated _ _ => HandlesCreated before
  | .called .espWebsocketClientStart _ => .networkSeen ∈ before ∧
      .created .xConnectionHandle true ∈ before ∧ ∀ h, ∃ result, .registered h result ∈ before
  | .called _ _ => .taskCreated .vTaskCommunication true ∈ before
  | .network _ => .called (.wifi .espEventLoopInit) .ok ∈ before
  | .networkSeen =>
      .network .staGotIp ∈ before ∧ .called (.wifi .espWifiStart) .ok ∈ before
  | .registered _ _ => ∃ ok, .created .xConnectionHandle ok ∈ before
  | .aborted => ∃ init c result, before = init ++ [.called c result] ∧ Fatal init c result
  | .nullUsed h => .created h false ∈ before

/-- Nothing happens without its cause, and nothing at all after the end. -/
def BootCaused (before : List BootEvent) (e : BootEvent) : Prop := Alive before ∧ Caused before e

def allWifiCalls : List WifiCall :=
  [.espEventLoopInit, .espWifiInit, .espWifiSetStorage, .espWifiSetMode, .espWifiSetConfig,
    .espWifiStart]

def wifiDone (cs : List WifiCall) : List (BootCall × EspErr) := cs.map fun c => (.wifi c, .ok)

/-- The calls by which the flash memory comes to be usable. -/
inductive FlashReady : List (BootCall × EspErr) → Prop
  | clean : FlashReady [(.nvsFlashInit, .ok)]
  | erased (result : EspErr) (repairable : Repairable result) :
      FlashReady [(.nvsFlashInit, result), (.nvsFlashErase, .ok), (.nvsFlashInit, .ok)]

def script (flash : List (BootCall × EspErr)) : List (BootCall × EspErr) :=
  flash ++ wifiDone allWifiCalls ++ [(.espWebsocketClientStart, .ok)]

/-- The checked calls are made in this order, each of them once; where one fails, it is
the last. -/
def InOrder (cs : List (BootCall × EspErr)) : Prop :=
  ∃ flash, FlashReady flash ∧ (cs <+: script flash ∨
    ∃ done c result, result ≠ .ok ∧ cs = done ++ [(c, result)] ∧ done ++ [(c, .ok)] <+: script flash)

def WifiCall.before : WifiCall → List WifiCall
  | .espEventLoopInit => []
  | .espWifiInit => allWifiCalls.take 1
  | .espWifiSetStorage => allWifiCalls.take 2
  | .espWifiSetMode => allWifiCalls.take 3
  | .espWifiSetConfig => allWifiCalls.take 4
  | .espWifiStart => allWifiCalls.take 5

/-- The checked calls that have been made when the communication task is at `pc`. -/
def CallsAt (cs : List (BootCall × EspErr)) : CommunicationPc → Prop
  | .nvsFlashInit => cs = []
  | .nvsFlashErase => ∃ result, Repairable result ∧ cs = [(.nvsFlashInit, result)]
  | .nvsFlashInitAgain => ∃ result, Repairable result ∧
      cs = [(.nvsFlashInit, result), (.nvsFlashErase, .ok)]
  | .tcpipAdapterInit => FlashReady cs
  | .wifi c => ∃ flash, FlashReady flash ∧ cs = flash ++ wifiDone c.before
  | .waitBits | .clientInit | .registerLog _ | .registerData | .logUri | .clientStart =>
      ∃ flash, FlashReady flash ∧ cs = flash ++ wifiDone allWifiCalls
  | .delay => ∃ flash, FlashReady flash ∧ cs = script flash

section Calls

variable {cs : List (BootCall × EspErr)} {pc : CommunicationPc} {c : BootCall}
  {flash : List (BootCall × EspErr)}

end Calls

def networkBits (network : Bool) : EventBits :=
  if network then xEventGroupSetBits 0 statusConnectedToNetwork else 0

def IsNew (client : Client) : Prop := ∃ reconnectTickMs pingTickMs,
  client = espWebsocketClientInit xConnectionConfig reconnectTickMs pingTickMs

def AllCreated (s : State) : Prop :=
  .created .xMailboxIncomingQueue s.xMailboxIncomingQueue.isSome ∈ s.log ∧
  .created .xMailboxOutcomingQueue s.xMailboxOutcomingQueue ∈ s.log ∧
  .created .xAppStateEventGroup s.xAppStateEventGroup.isSome ∈ s.log

/-- What has been created when `app_main` is at its program point. -/
def CreatedAt (s : State) : Prop :=
  match s.main with
  | .mailboxIncoming => True
  | .mailboxOutcoming => .created .xMailboxIncomingQueue s.xMailboxIncomingQueue.isSome ∈ s.log
  | .appState => .created .xMailboxIncomingQueue s.xMailboxIncomingQueue.isSome ∈ s.log ∧
      .created .xMailboxOutcomingQueue s.xMailboxOutcomingQueue ∈ s.log
  | .communication | .heartbeat | .gpio | .returned => AllCreated s

def createsTasks : MainPc → Bool
  | .mailboxIncoming | .mailboxOutcoming | .appState => false
  | .communication | .heartbeat | .gpio | .returned => true

def beforeCommunication : MainPc → Bool
  | .mailboxIncoming | .mailboxOutcoming | .appState | .communication => true
  | .heartbeat | .gpio | .returned => false

/-- What has happened when the communication task is at `pc`. -/
def PastAt (handle : Option Client) (log : List BootEvent) : CommunicationPc → Prop
  | .nvsFlashInit | .nvsFlashErase | .nvsFlashInitAgain | .tcpipAdapterInit | .wifi _ =>
      .taskCreated .vTaskCommunication true ∈ log
  | .waitBits => .called (.wifi .espWifiStart) .ok ∈ log
  | .clientInit => .networkSeen ∈ log
  | .registerLog client => .networkSeen ∈ log ∧
      .created .xConnectionHandle client.isSome ∈ log ∧ ∀ c, client = some c → IsNew c
  | .registerData => .networkSeen ∈ log ∧ .created .xConnectionHandle handle.isSome ∈ log ∧
      ∃ result, .registered .xWebsocketEventHandler result ∈ log
  | .logUri => .networkSeen ∈ log ∧ .created .xConnectionHandle handle.isSome ∈ log ∧
      ∀ h, ∃ result, .registered h result ∈ log
  | .clientStart => .networkSeen ∈ log ∧ .created .xConnectionHandle true ∈ log ∧
      ∀ h, ∃ result, .registered h result ∈ log
  | .delay => .networkSeen ∈ log

theorem PastAt.mono {handle : Option Client} {log log' : List BootEvent} {pc : CommunicationPc}
    (h : PastAt handle log pc) (hlog : ∀ e ∈ log, e ∈ log') : PastAt handle log' pc := by
  cases pc with
  | nvsFlashInit | nvsFlashErase | nvsFlashInitAgain | tcpipAdapterInit | wifi _ | waitBits
  | clientInit | delay => exact hlog _ h
  | registerLog client => exact ⟨hlog _ h.1, hlog _ h.2.1, h.2.2⟩
  | registerData =>
      obtain ⟨hseen, hcreated, result, hregistered⟩ := h
      exact ⟨hlog _ hseen, hlog _ hcreated, result, hlog _ hregistered⟩
  | logUri | clientStart =>
      obtain ⟨hseen, hcreated, hregistered⟩ := h
      refine ⟨hlog _ hseen, hlog _ hcreated, ?_⟩
      intro handler
      obtain ⟨result, hmem⟩ := hregistered handler
      exact ⟨result, hlog _ hmem⟩

/-- What holds as long as the chip runs. -/
structure BootInv (rx : List UInt8) (s : State) : Prop where
  ordered : Ordered BootCaused s.log
  alive : Alive s.log
  created : CreatedAt s
  begun : createsTasks s.main = true ∨ (s.heartbeat = none ∧ s.gpio = none)
  fresh : beforeCommunication s.main = true → s.communication = none ∧ s.wifiHandler = false
  empty : ∀ shared, s.xMailboxIncomingQueue = some shared → shared = vMailboxInit rx
  bits : ∀ bits, s.xAppStateEventGroup = some bits → ∃ network, bits = networkBits network ∧
    (network = true → .network .staGotIp ∈ s.log)
  uncalled : s.communication = none → calls s.log = []
  calls : ∀ pc, s.communication = some pc → CallsAt (calls s.log) pc
  past : ∀ pc, s.communication = some pc → PastAt s.xConnectionHandle s.log pc
  wifi : s.wifiHandler = true → .called (.wifi .espEventLoopInit) .ok ∈ s.log
  connection : ∀ client, s.xConnectionHandle = some client → IsNew client
  websocket : ∀ pc, s.websocket = some pc →
    pc = .enter ∧ s.xConnectionHandle.isSome = true ∧ s.communication = some .delay
  polling : ∀ pc, s.gpio = some pc → pc = .idle
  seen : .networkSeen ∈ s.log → createsTasks s.main = true ∧ s.xAppStateEventGroup.isSome = true
  returned : s.main = .returned → .taskCreated .vEndpointTaskGpio s.gpio.isSome ∈ s.log

variable {rx : List UInt8} {s s' : State}

theorem AllCreated.event {e : BootEvent} (h : AllCreated s) : AllCreated (s.event e) :=
  ⟨List.mem_append_left _ h.1, List.mem_append_left _ h.2.1, List.mem_append_left _ h.2.2⟩

theorem CreatedAt.all (h : CreatedAt s) (hmain : createsTasks s.main = true) :
    AllCreated s := by
  unfold CreatedAt at h
  cases hpc : s.main with
  | mailboxIncoming | mailboxOutcoming | appState =>
      rw [hpc] at hmain
      cases hmain
  | communication | heartbeat | gpio | returned =>
      rw [hpc] at h
      exact h

theorem AllCreated.at (h : AllCreated s) (hmain : createsTasks s.main = true) : CreatedAt s := by
  unfold CreatedAt
  cases hpc : s.main with
  | mailboxIncoming | mailboxOutcoming | appState =>
      rw [hpc] at hmain
      cases hmain
  | communication | heartbeat | gpio | returned => exact h

theorem CreatedAt.event {e : BootEvent} (h : CreatedAt s) : CreatedAt (s.event e) := by
  unfold CreatedAt at h ⊢
  cases hmain : s.main with
  | mailboxIncoming => simp only [State.event, hmain]
  | mailboxOutcoming =>
      rw [hmain] at h
      simp only [State.event, hmain]
      exact List.mem_append_left _ h
  | appState =>
      rw [hmain] at h
      simp only [State.event, hmain]
      exact ⟨List.mem_append_left _ h.1, List.mem_append_left _ h.2⟩
  | communication | heartbeat | gpio | returned =>
      rw [hmain] at h
      simp only [State.event, hmain]
      exact AllCreated.event h

def ends : BootEvent → Bool
  | .aborted | .nullUsed _ => true
  | _ => false

theorem Alive.event {log : List BootEvent} {e : BootEvent} (h : Alive log)
    (he : ends e = false) : Alive (log ++ [e]) := by
  constructor
  · intro hmem
    rcases List.mem_append.mp hmem with hmem | hmem
    · exact h.1 hmem
    · cases List.mem_singleton.mp hmem
      cases he
  · intro handle hmem
    rcases List.mem_append.mp hmem with hmem | hmem
    · exact h.2 handle hmem
    · cases List.mem_singleton.mp hmem
      cases he

theorem calls_event {log : List BootEvent} {e : BootEvent} :
    calls (log ++ [e]) = calls log ++ (callOf e).toList := by
  unfold calls
  rw [List.filterMap_append]
  cases e <;> rfl

/-- Something happens that is no checked call. -/
theorem BootInv.event {e : BootEvent} (h : BootInv rx s) (hcaused : Caused s.log e)
    (hends : ends e = false) (hcall : callOf e = none)
    (hseen : e = .networkSeen →
      createsTasks s.main = true ∧ s.xAppStateEventGroup.isSome = true) :
    BootInv rx (s.event e) := by
  have hlog : ∀ x ∈ s.log, x ∈ (s.event e).log := fun x hx => List.mem_append_left _ hx
  have hcalls : Startup.calls (s.event e).log = Startup.calls s.log := by
    show Startup.calls (s.log ++ [e]) = _
    rw [calls_event, hcall]
    exact List.append_nil _
  refine ⟨ordered_concat.mpr ⟨h.ordered, h.alive, hcaused⟩, h.alive.event hends, h.created.event,
    h.begun, h.fresh, h.empty, ?_, ?_, ?_, ?_, ?_, h.connection, h.websocket, h.polling, ?_,
    fun hmain => hlog _ (h.returned hmain)⟩
  · intro bits hbits
    obtain ⟨network, heq, hip⟩ := h.bits bits hbits
    exact ⟨network, heq, fun hnetwork => hlog _ (hip hnetwork)⟩
  · intro hnone
    rw [hcalls]
    exact h.uncalled hnone
  · intro pc hpc
    rw [hcalls]
    exact h.calls pc hpc
  · intro pc hpc
    exact (h.past pc hpc).mono hlog
  · exact fun hwifi => hlog _ (h.wifi hwifi)
  · intro hmem
    rcases List.mem_append.mp hmem with hmem | hmem
    · exact h.seen hmem
    · exact hseen (List.mem_singleton.mp hmem).symm

theorem AllCreated.handles (h : AllCreated s) : HandlesCreated s.log := by
  intro handle hne
  cases handle with
  | xMailboxIncomingQueue => exact ⟨_, h.1⟩
  | xMailboxOutcomingQueue => exact ⟨_, h.2.1⟩
  | xAppStateEventGroup => exact ⟨_, h.2.2⟩
  | xConnectionHandle => exact absurd rfl hne

/-- While `app_main` has not created the event group, no task exists. -/
theorem BootInv.early (h : BootInv rx s) (hmain : createsTasks s.main = false) :
    s.communication = none ∧ s.wifiHandler = false ∧ s.heartbeat = none ∧ s.gpio = none ∧
      .networkSeen ∉ s.log := by
  have hfresh : beforeCommunication s.main = true := by
    cases hpc : s.main with
    | mailboxIncoming | mailboxOutcoming | appState => rfl
    | communication | heartbeat | gpio | returned =>
        rw [hpc] at hmain
        cases hmain
  obtain ⟨hcommunication, hwifi⟩ := h.fresh hfresh
  rcases h.begun with hbegun | ⟨hheartbeat, hgpio⟩
  · cases hmain.symm.trans hbegun
  · refine ⟨hcommunication, hwifi, hheartbeat, hgpio, ?_⟩
    intro hseen
    cases hmain.symm.trans (h.seen hseen).1

/-- The websocket task begins where the model of the running firmware begins; the mailbox
may be missing if it could not be created, and the endpoint's task until `app_main` has
returned. -/
structure HandsOver (rx : List UInt8) (s : State) (pc : ClientPc) (network : Bool)
    (reconnectTickMs pingTickMs : UInt64) : Prop where
  pc : pc = (Firmware.start (ι := Unit) network reconnectTickMs pingTickMs rx).pc
  client : s.xConnectionHandle =
    some (Firmware.start (ι := Unit) network reconnectTickMs pingTickMs rx).client
  bits : s.xAppStateEventGroup =
    some (Firmware.start (ι := Unit) network reconnectTickMs pingTickMs rx).xAppStateEventGroup
  mailbox : .created .xMailboxIncomingQueue false ∉ s.log → s.xMailboxIncomingQueue =
    some (Firmware.start (ι := Unit) network reconnectTickMs pingTickMs rx).tasks.shared
  endpoint : s.main = .returned → .taskCreated .vEndpointTaskGpio false ∉ s.log → s.gpio =
    some ((Firmware.start (ι := Unit) network reconnectTickMs pingTickMs rx).tasks.endpoint ())

/-- Everything during the start has its cause, the calls are made in order and the chip
stops where one fails, and the websocket task finds what it needs. -/
structure BootSafe (rx : List UInt8) (s : State) : Prop where
  ordered : Ordered BootCaused s.log
  calls : InOrder (calls s.log)
  stops : Stops s.log
  handsOver : ∀ pc, s.websocket = some pc →
    ∃ network reconnectTickMs pingTickMs, HandsOver rx s pc network reconnectTickMs pingTickMs

theorem BootInv.all (h : BootInv rx s)
    (hlater : s.communication.isSome = true ∨ s.wifiHandler = true ∨ s.heartbeat.isSome = true ∨
      s.gpio.isSome = true) : AllCreated s := by
  apply h.created.all
  rw [← Bool.not_eq_false]
  intro hmain
  obtain ⟨hcommunication, hwifi, hheartbeat, hgpio, -⟩ := h.early hmain
  simp [hcommunication, hwifi, hheartbeat, hgpio] at hlater

theorem BootInv.handsOver (h : BootInv rx s) {pc : ClientPc} (hpc : s.websocket = some pc) :
    ∃ network reconnectTickMs pingTickMs,
      HandsOver rx s pc network reconnectTickMs pingTickMs := by
  obtain ⟨rfl, hhandle, hdelay⟩ := h.websocket pc hpc
  have hseen : .networkSeen ∈ s.log := h.past _ hdelay
  obtain ⟨client, hclient⟩ := Option.isSome_iff_exists.mp hhandle
  obtain ⟨reconnectTickMs, pingTickMs, rfl⟩ := h.connection client hclient
  obtain ⟨bits, hbits⟩ := Option.isSome_iff_exists.mp (h.seen hseen).2
  obtain ⟨network, rfl, -⟩ := h.bits bits hbits
  have hall := h.all (.inl (by rw [hdelay]; rfl))
  refine ⟨network, reconnectTickMs, pingTickMs, rfl, hclient, hbits, ?_, ?_⟩
  · intro hcreated
    cases hqueue : s.xMailboxIncomingQueue with
    | none =>
        have hmem := hall.1
        rw [hqueue] at hmem
        exact absurd hmem hcreated
    | some shared =>
        rw [h.empty shared hqueue]
        rfl
  · intro hreturned hcreated
    cases hgpio : s.gpio with
    | none =>
        have hmem := h.returned hreturned
        rw [hgpio] at hmem
        exact absurd hmem hcreated
    | some pc =>
        rw [h.polling pc hgpio]
        rfl

/-- What a step leaves: the chip has stopped, or the invariant. -/
def Outcome (rx : List UInt8) (s : State) : Prop :=
  BootSafe rx s ∧ (s.halted = false → BootInv rx s)

/-- Stopping changes nothing but the log. -/
theorem HandsOver.stopped {log : List BootEvent} {pc : ClientPc} {network : Bool}
    {reconnectTickMs pingTickMs : UInt64}
    (h : HandsOver rx s pc network reconnectTickMs pingTickMs) (hlog : ∀ e ∈ s.log, e ∈ log) :
    HandsOver rx { s with halted := true, log := log } pc network reconnectTickMs pingTickMs where
  pc := h.pc
  client := h.client
  bits := h.bits
  mailbox hcreated := h.mailbox fun hmem => hcreated (hlog _ hmem)
  endpoint hreturned hcreated := h.endpoint hreturned fun hmem => hcreated (hlog _ hmem)

/-- The communication task goes on with an event. -/
theorem BootInv.move {e : BootEvent} {pc next : CommunicationPc} (h : BootInv rx s)
    (hpc : s.communication = some pc) (hdelay : pc ≠ .delay) (hcaused : Caused s.log e)
    (hends : ends e = false) (hcalls : CallsAt (Startup.calls s.log ++ (callOf e).toList) next)
    (hpast : PastAt s.xConnectionHandle (s.event e).log next)
    (hseen : e = .networkSeen →
      createsTasks s.main = true ∧ s.xAppStateEventGroup.isSome = true) :
    BootInv rx { s.event e with communication := some next } := by
  have hlog : ∀ x ∈ s.log, x ∈ (s.event e).log := fun x hx => List.mem_append_left _ hx
  have hfresh : beforeCommunication s.main = false := by
    rw [← Bool.not_eq_true]
    intro hbefore
    cases hpc.symm.trans (h.fresh hbefore).1
  refine ⟨ordered_concat.mpr ⟨h.ordered, h.alive, hcaused⟩, h.alive.event hends, h.created.event,
    h.begun, ?_, h.empty, ?_, ?_, ?_, ?_, ?_, h.connection, ?_, h.polling, ?_,
    fun hmain => hlog _ (h.returned hmain)⟩
  · intro hbefore
    cases hfresh.symm.trans hbefore
  · intro bits hbits
    obtain ⟨network, heq, hip⟩ := h.bits bits hbits
    exact ⟨network, heq, fun hnetwork => hlog _ (hip hnetwork)⟩
  · intro hnone
    cases hnone
  · intro pc' hpc'
    cases hpc'
    show CallsAt (Startup.calls (s.log ++ [e])) next
    rw [calls_event]
    exact hcalls
  · intro pc' hpc'
    cases hpc'
    exact hpast
  · exact fun hwifi => hlog _ (h.wifi hwifi)
  · intro pc' hpc'
    cases hpc.symm.trans (h.websocket pc' hpc').2.2
    exact absurd rfl hdelay
  · intro hmem
    rcases List.mem_append.mp hmem with hmem | hmem
    · exact h.seen hmem
    · exact hseen (List.mem_singleton.mp hmem).symm

/-- The communication task goes on and nothing happens. -/
theorem BootInv.goto {pc next : CommunicationPc} (h : BootInv rx s)
    (hpc : s.communication = some pc) (hdelay : pc ≠ .delay)
    (hcalls : CallsAt (Startup.calls s.log) next)
    (hpast : PastAt s.xConnectionHandle s.log next) :
    BootInv rx { s with communication := some next } := by
  refine { h with fresh := ?_, uncalled := ?_, calls := ?_, past := ?_, websocket := ?_ }
  · intro hbefore
    cases hpc.symm.trans (h.fresh hbefore).1
  · intro hnone
    cases hnone
  · intro pc' hpc'
    cases hpc'
    exact hcalls
  · intro pc' hpc'
    cases hpc'
    exact hpast
  · intro pc' hpc'
    cases hpc.symm.trans (h.websocket pc' hpc').2.2
    exact absurd rfl hdelay

end Esp32Iot.Startup
