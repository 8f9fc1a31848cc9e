import Mathlib.Data.UInt

namespace Esp32Iot.WebsocketClient

def websocketBufferSizeByte : Int := 4 * 1024
def websocketReconnectTimeoutMs : Int := 1 * 1000
def websocketPingTimeoutMs : UInt64 := 10 * 1000

def espFail : Int := -1

inductive WebsocketState
  | error
  | unknow
  | init
  | connected
  | waitTimeout
  deriving DecidableEq, Repr

def WebsocketState.toInt : WebsocketState → Int
  | .error => -1
  | .unknow => 0
  | .init => 1
  | .connected => 2
  | .waitTimeout => 3

/-- `transport` says whether a transport for the scheme has been found. -/
structure Client where
  transport : Bool
  state : WebsocketState
  reconnectTickMs : UInt64
  pingTickMs : UInt64
  waitTimeoutMs : Int
  autoReconnect : Bool
  run : Bool
  bufferSize : Int
  deriving DecidableEq, Repr

structure ClientConfig where
  disableAutoReconnect : Bool
  bufferSize : Int

def espWebsocketClientInit (config : ClientConfig) (reconnectTickMs pingTickMs : UInt64) :
    Client where
  transport := false
  state := .unknow
  reconnectTickMs := reconnectTickMs
  pingTickMs := pingTickMs
  waitTimeoutMs := 0
  autoReconnect := !config.disableAutoReconnect
  run := false
  bufferSize := if config.bufferSize ≤ 0 then websocketBufferSizeByte else config.bufferSize

inductive ClientEvent
  | connected
  | disconnected
  | data (bytes : List UInt8)
  deriving DecidableEq, Repr

/-- Program points of the client task; at `writePing` an empty frame is written, and at
`handling` the handlers of a data event are running. -/
inductive ClientPc
  | enter
  | loopHead
  | connect
  | pollRead
  | ping (readSelect : Int)
  | writePing (readSelect : Int)
  | read
  | abortConnection
  | dispatch (event : ClientEvent)
  | handling
  | leave
  | stopped
  deriving DecidableEq, Repr

/-- `esp_websocket_client_start`: unless it runs already, the task is created. -/
def espWebsocketClientStart (client : Client) : Option ClientPc :=
  if WebsocketState.init.toInt ≤ client.state.toInt then none else some .enter

/-- What one step of the client task finds outside: whether there is a transport
for the scheme, what the transport returns, the bytes a read delivers, and the
clock when it is compared and when it is noted down. -/
structure ClientEnv where
  transport : Bool
  result : Int
  bytes : List UInt8
  tickMs : UInt64
  nextTickMs : UInt64

def switchStep (client : Client) (env : ClientEnv) : Client × ClientPc :=
  match client.state with
  | .init =>
      if client.transport then (client, .connect)
      else ({ client with run := false }, .loopHead)
  | .connected => (client, .pollRead)
  | .waitTimeout =>
      if client.autoReconnect then
        if env.tickMs - client.reconnectTickMs > UInt64.ofInt client.waitTimeoutMs then
          ({ client with state := .init, reconnectTickMs := env.nextTickMs }, .loopHead)
        else (client, .loopHead)
      else ({ client with run := false }, .loopHead)
  | .error | .unknow => (client, .loopHead)

def afterPing (client : Client) (env : ClientEnv) (readSelect : Int) : Client × ClientPc :=
  if readSelect = 0 then (client, .loopHead)
  else ({ client with pingTickMs := env.nextTickMs }, .read)

def pingStep (client : Client) (env : ClientEnv) (readSelect : Int) : Client × ClientPc :=
  if env.tickMs - client.pingTickMs > websocketPingTimeoutMs then
    ({ client with pingTickMs := env.nextTickMs }, .writePing readSelect)
  else afterPing client env readSelect

def clientStep (client : Client) (env : ClientEnv) : ClientPc → Option (Client × ClientPc)
  | .enter =>
      some ({ client with transport := env.transport, run := env.transport, state := .init },
        .loopHead)
  | .loopHead => if client.run then some (switchStep client env) else some (client, .leave)
  | .connect =>
      if env.result < 0 then some (client, .abortConnection)
      else some ({ client with state := .connected }, .dispatch .connected)
  | .pollRead =>
      if env.result < 0 then some (client, .abortConnection)
      else some (client, .ping env.result)
  | .ping readSelect => some (pingStep client env readSelect)
  -- the result of the write is not looked at
  | .writePing readSelect => some (afterPing client env readSelect)
  | .read =>
      if env.result < 0 then some (client, .abortConnection)
      else if env.bytes.length > client.bufferSize then none
      else if env.bytes = [] then some (client, .loopHead)
      else some (client, .dispatch (.data env.bytes))
  | .abortConnection =>
      some ({ client with
        waitTimeoutMs := websocketReconnectTimeoutMs
        reconnectTickMs := env.tickMs
        state := .waitTimeout }, .dispatch .disconnected)
  | .leave => some ({ client with state := .unknow }, .stopped)
  | .dispatch _ | .handling | .stopped => none

def espWebsocketClientIsConnected (client : Client) : Bool :=
  decide (client.state = .connected)

/-- What one call of `esp_websocket_client_send` finds: whether it gets the lock,
and what the writes of the transport return. -/
structure SendEnv where
  locked : Bool
  writes : List Int

inductive SendExit
  | invalidArguments
  | notConnected
  | invalidTransport
  | notLocked
  | returned (wlen : Int)
  deriving DecidableEq, Repr

def SendExit.result : SendExit → Int
  | .returned wlen => wlen
  | .invalidArguments | .notConnected | .invalidTransport | .notLocked => espFail

/-- The loop over the writes; `none` when the transport has not returned from the
next one, or would return more than it was given. -/
def sendLoop (bufferSize len : Int) (widx needWrite : Int) : List Int → Option Int
  | [] => if widx < len then none else some widx
  | wlen :: writes =>
      if widx < len then
        if wlen > min needWrite bufferSize then none
        else if wlen ≤ 0 then some wlen
        else sendLoop bufferSize len (widx + wlen) (len - (widx + wlen)) writes
      else some widx

def espWebsocketClientSend (client : Client) (data : List UInt8) (env : SendEnv) :
    Option SendExit :=
  if data.length = 0 then some .invalidArguments
  else if espWebsocketClientIsConnected client = false then some .notConnected
  else if client.transport = false then some .invalidTransport
  else if env.locked = false then some .notLocked
  else (sendLoop client.bufferSize data.length 0 data.length env.writes).map .returned

variable {client client' : Client} {env : ClientEnv} {pc pc' : ClientPc}

theorem send_of_connected {data : List UInt8} {sendEnv : SendEnv}
    (hconnected : client.state = .connected) :
    espWebsocketClientSend client data sendEnv ≠ some .notConnected := by
  have hcheck : espWebsocketClientIsConnected client = true := by
    simp [espWebsocketClientIsConnected, hconnected]
  unfold espWebsocketClientSend
  rw [hcheck]
  split
  · simp
  · rw [if_neg (by simp)]
    split
    · simp
    · split <;> simp

/-- Where the task stands, and what the server bit and the state are there. While
a connection is given up, nothing is said of them until the event has been
delivered. -/
def Agrees (bit : Bool) (state : WebsocketState) : ClientPc → Prop
  | .enter => bit = false
  | .loopHead => bit = decide (state = .connected)
  | .connect => bit = false
  | .pollRead | .ping _ | .writePing _ | .read | .dispatch (.data _) | .handling =>
      bit = true ∧ state = .connected
  | .dispatch .connected => state = .connected
  | .dispatch .disconnected => state = .waitTimeout
  | .abortConnection | .leave | .stopped => True

theorem switchStep_agrees {bit : Bool} (h : Agrees bit client.state .loopHead) :
    Agrees bit (switchStep client env).1.state (switchStep client env).2 := by
  have hbit : bit = decide (client.state = .connected) := h
  unfold switchStep
  split
  · rename_i hstate
    rw [hstate] at hbit
    split
    · exact hbit
    · rw [← hstate] at hbit
      exact hbit
  · rename_i hstate
    rw [hstate] at hbit
    exact ⟨hbit, hstate⟩
  · rename_i hstate
    rw [hstate] at hbit
    split
    · split
      · exact hbit
      · rw [← hstate] at hbit
        exact hbit
    · rw [← hstate] at hbit
      exact hbit
  · exact hbit
  · exact hbit

theorem afterPing_agrees {bit : Bool} {readSelect : Int}
    (h : bit = true ∧ client.state = .connected) :
    Agrees bit (afterPing client env readSelect).1.state (afterPing client env readSelect).2 := by
  obtain ⟨hbit, hstate⟩ := h
  unfold afterPing
  split
  · change bit = decide (_ = _)
    rw [hstate, hbit]
    rfl
  · exact ⟨hbit, hstate⟩

theorem pingStep_agrees {bit : Bool} {readSelect : Int}
    (h : bit = true ∧ client.state = .connected) :
    Agrees bit (pingStep client env readSelect).1.state (pingStep client env readSelect).2 := by
  unfold pingStep
  split
  · exact h
  · exact afterPing_agrees h

theorem clientStep_agrees {bit : Bool} (h : Agrees bit client.state pc)
    (hstep : clientStep client env pc = some (client', pc')) :
    Agrees bit client'.state pc' := by
  cases pc with
  | enter =>
      cases hstep
      exact h
  | loopHead =>
      simp only [clientStep] at hstep
      split at hstep
      · have hturn : switchStep client env = (client', pc') := Option.some.inj hstep
        have hagrees : Agrees bit (switchStep client env).1.state (switchStep client env).2 :=
          switchStep_agrees h
        rw [hturn] at hagrees
        exact hagrees
      · cases hstep
        trivial
  | connect =>
      simp only [clientStep] at hstep
      split at hstep
      · cases hstep
        trivial
      · cases hstep
        rfl
  | pollRead =>
      simp only [clientStep] at hstep
      split at hstep
      · cases hstep
        trivial
      · cases hstep
        exact h
  | ping readSelect =>
      have hturn : pingStep client env readSelect = (client', pc') := Option.some.inj hstep
      have hagrees : Agrees bit (pingStep client env readSelect).1.state
          (pingStep client env readSelect).2 := pingStep_agrees h
      rw [hturn] at hagrees
      exact hagrees
  | writePing readSelect =>
      have hturn : afterPing client env readSelect = (client', pc') := Option.some.inj hstep
      have hagrees : Agrees bit (afterPing client env readSelect).1.state
          (afterPing client env readSelect).2 := afterPing_agrees h
      rw [hturn] at hagrees
      exact hagrees
  | read =>
      obtain ⟨hbit, hstate⟩ := h
      simp only [clientStep] at hstep
      split at hstep
      · cases hstep
        trivial
      · split at hstep
        · cases hstep
        · split at hstep
          · cases hstep
            change bit = decide (_ = _)
            rw [hbit, hstate]
            rfl
          · cases hstep
            exact ⟨hbit, hstate⟩
  | abortConnection =>
      cases hstep
      rfl
  | leave =>
      cases hstep
      trivial
  | dispatch _ | handling | stopped => cases hstep

end Esp32Iot.WebsocketClient
