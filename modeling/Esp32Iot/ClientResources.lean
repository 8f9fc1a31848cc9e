import Esp32Iot.BlockLedger
import Esp32Iot.EarlyExit
import Esp32Iot.TransportPackage
import Esp32Iot.WebsocketClient

namespace Esp32Iot.ClientResources

open Esp32Iot.BlockLedger
open Esp32Iot.EarlyExit
open Esp32Iot.TransportPackage
open Esp32Iot.WebsocketClient (websocketBufferSizeByte)

def websocketTcpDefaultPort : Int := 80
def websocketSslDefaultPort : Int := 443
def websocketTaskPriority : Int := 15
def websocketTaskStack : Int := 4 * 1024
def websocketNetworkTimeoutMs : Int := 10 * 1000

structure CString where
  block : Nat
  text : Text
  deriving DecidableEq, Repr

inductive StringField
  | uri
  | host
  | path
  | scheme
  | username
  | password
  deriving DecidableEq, Repr

structure ConfigStorage where
  block : Nat
  taskStack : Int
  taskPrio : Int
  strings : StringField → Option CString
  port : Int
  autoReconnect : Bool
  userContext : Nat
  networkTimeoutMs : Int

/-- `calloc(1, sizeof(websocket_config_storage_t))` -/
def ConfigStorage.zero (block : Nat) : ConfigStorage where
  block := block
  taskStack := 0
  taskPrio := 0
  strings := fun _ => none
  port := 0
  autoReconnect := false
  userContext := 0
  networkTimeoutMs := 0

def ConfigStorage.setString (f : StringField) (s : Option CString) (cfg : ConfigStorage) :
    ConfigStorage :=
  { cfg with strings := Function.update cfg.strings f s }

structure Client where
  block : Nat
  eventHandle : Nat
  transportList : Option Nat
  config : Option ConfigStorage
  keepaliveTickMs : UInt64
  reconnectTickMs : UInt64
  pingTickMs : UInt64
  run : Bool
  statusBits : Option Nat
  lock : Option Nat
  rxBuffer : Option Nat
  txBuffer : Option Nat
  bufferSize : Int

/-- The client after `calloc` and `esp_event_loop_create`. -/
def Client.zero (block eventHandle : Nat) : Client where
  block := block
  eventHandle := eventHandle
  transportList := none
  config := none
  keepaliveTickMs := 0
  reconnectTickMs := 0
  pingTickMs := 0
  run := false
  statusBits := none
  lock := none
  rxBuffer := none
  txBuffer := none
  bufferSize := 0

inductive TransportKind
  | unknown
  | overTcp
  | overSsl
  deriving DecidableEq, Repr

/-- `esp_websocket_client_config_t` -/
structure ClientConfig where
  uri : Option Text
  host : Option Text
  port : Int
  username : Option Text
  password : Option Text
  path : Option Text
  disableAutoReconnect : Bool
  userContext : Nat
  taskPrio : Int
  taskStack : Int
  bufferSize : Int
  certPem : Option Text
  transport : TransportKind

/-- The configuration of `xConnect`: everything but the URI and the port is zero. -/
def xConectionConfig (uri : Text) (port : Int) : ClientConfig where
  uri := some uri
  host := none
  port := port
  username := none
  password := none
  path := none
  disableAutoReconnect := false
  userContext := 0
  taskPrio := 0
  taskStack := 0
  bufferSize := 0
  certPem := none
  transport := .unknown

structure UrlField where
  off : Nat
  len : Nat
  deriving DecidableEq, Repr

def UrlField.text (field : UrlField) (uri : Text) : Text := (uri.drop field.off).take field.len

/-- The fields of `struct http_parser_url` that are read. -/
structure Url where
  schema : UrlField
  host : UrlField
  port : UrlField
  path : UrlField
  userinfo : UrlField
  deriving DecidableEq, Repr

/-- What comes from outside: which allocations succeed, the URL parser, the clock, and
what an `asprintf` without memory leaves behind in a pointer. -/
structure Env where
  allows : Nat → Bool
  httpParserParseUrl : Text → Option Url
  tickMs : Nat → UInt64
  asprintfFailed : Option CString → Option CString
  asprintfFailed_none : asprintfFailed none = none

def longMax : Int := 2 ^ 31 - 1
def longMin : Int := -2 ^ 31

def isspace (c : Char) : Bool := c = ' ' ∨ (9 ≤ c.toNat ∧ c.toNat ≤ 13)

/-- `strtol(text, NULL, 10)` -/
def strtol (text : Text) : Int :=
  let rest := text.dropWhile isspace
  let negative := rest.head? = some '-'
  let digits := if negative ∨ rest.head? = some '+' then rest.tail else rest
  let n : Int := (digits.takeWhile Char.isDigit).foldl
    (fun n c => 10 * n + (c.toNat - '0'.toNat : Nat)) 0
  if negative then max longMin (-n) else min longMax n

structure Machine (σ : Type) where
  ledger : Ledger
  nullPassed : Bool
  client : Client
  transports : Transports σ

/-- How a function is left early. -/
inductive Exit
  | espFail
  | espErrNoMem
  | initFail
  | nullDereference
  deriving DecidableEq, Repr

abbrev Prog (σ : Type) := Program Exit (Machine σ)

variable {σ : Type}

def Machine.write (f : Client → Client) (m : Machine σ) : Machine σ :=
  { m with client := f m.client }

def Client.setConfig (config : Option ConfigStorage) (c : Client) : Client :=
  { c with config := config }

def Client.setTransportList (l : Option Nat) (c : Client) : Client :=
  { c with transportList := l }

def malloc (env : Env) : Prog σ (Option Nat) :=
  modifyGet fun m =>
    ((m.ledger.malloc env.allows).1, { m with ledger := (m.ledger.malloc env.allows).2 })

def free (p : Option Nat) : Prog σ Unit :=
  modify fun m => { m with ledger := m.ledger.free p }

/-- `client->field = malloc(..)` with `ESP_WS_CLIENT_MEM_CHECK` -/
def create (env : Env) (store : Option Nat → Client → Client) : Prog σ (Option Nat) := do
  let p ← malloc env
  modify (Machine.write (store p))
  check (p.isSome) .initFail
  return p

def readConfig : Prog σ ConfigStorage := do
  match (← get).client.config with
  | none => throw .nullDereference
  | some cfg => return cfg

def writeConfig (f : ConfigStorage → ConfigStorage) : Prog σ Unit := do
  let cfg ← readConfig
  modify (Machine.write (Client.setConfig (some (f cfg))))

def CString.pointer (s : Option CString) : Option Nat := s.map (·.block)

/-- `cfg->field = strdup(text)` and its check. -/
def strdup (env : Env) (f : StringField) (text : Text) : Prog σ Unit := do
  let p ← malloc env
  writeConfig (·.setString f (p.map fun a => ⟨a, text⟩))
  check p.isSome .espErrNoMem

/-- `free(cfg->field)`, then `cfg->field = strdup(text)` and its check. -/
def replaceString (env : Env) (f : StringField) (text : Text) : Prog σ Unit := do
  let cfg ← readConfig
  free (CString.pointer (cfg.strings f))
  strdup env f text

/-- `asprintf(&client->config->field, ..)` and its check. -/
def asprintf (env : Env) (f : StringField) (text : Text) (exit : Exit) : Prog σ Unit := do
  let p ← malloc env
  writeConfig fun cfg => cfg.setString f
    ((p.map fun a => ⟨a, text⟩).or (env.asprintfFailed (cfg.strings f)))
  let cfg ← readConfig
  check (cfg.strings f).isSome exit

/-- `free(client->config->field)`, then `asprintf` and its check. -/
def replaceFormatted (env : Env) (f : StringField) (text : Text) : Prog σ Unit := do
  let cfg ← readConfig
  free (CString.pointer (cfg.strings f))
  asprintf env f text .espErrNoMem

def setTransportPath (lib : EspTransport σ) (scheme : Text) (path : Option Text) :
    Prog σ Unit :=
  modify fun m =>
    { m with transports := m.transports.setPath lib m.client.transportList scheme path }

/-- `puri.field_data[UF_PATH]`: the path is handed on to the transports. -/
def setUriPath (env : Env) (lib : EspTransport σ) (path : Text) : Prog σ Unit := do
  replaceFormatted env .path path
  let cfg ← readConfig
  setTransportPath lib wsScheme ((cfg.strings .path).map (·.text))
  setTransportPath lib wssScheme ((cfg.strings .path).map (·.text))

/-- `puri.field_data[UF_USERINFO]`: the part before the first colon is the user name,
what follows it the password. -/
def setUriUserinfo (env : Env) (text : Text) : Prog σ Unit := do
  let userInfo ← malloc env
  check userInfo.isSome .espErrNoMem
  onlyIf (':' ∈ text) (replaceString env .password (text.dropWhile (· ≠ ':')).tail)
  replaceString env .username (text.takeWhile (· ≠ ':'))
  free userInfo

def espWebsocketClientSetUri (env : Env) (lib : EspTransport σ) (uri : Text) : Prog σ Unit :=
  match env.httpParserParseUrl uri with
  | none => throw .espFail
  | some puri => do
      onlyIf (puri.schema.len ≠ 0) (replaceFormatted env .scheme (puri.schema.text uri))
      onlyIf (puri.host.len ≠ 0) (replaceFormatted env .host (puri.host.text uri))
      onlyIf (puri.path.len ≠ 0) (setUriPath env lib (puri.path.text uri))
      onlyIf (puri.port.off ≠ 0)
        (writeConfig fun cfg => { cfg with port := strtol (uri.drop puri.port.off) })
      onlyIf (puri.userinfo.len ≠ 0) (setUriUserinfo env (puri.userinfo.text uri))

/-- A step for a field that the configuration may leave null. -/
def ifGiven (assign : Text → Prog σ Unit) : Option Text → Prog σ Unit
  | none => pure ()
  | some text => assign text

def espWebsocketClientSetConfig (env : Env) (config : ClientConfig) : Prog σ Unit := do
  writeConfig fun cfg => { cfg with
    taskPrio := if config.taskPrio ≤ 0 then websocketTaskPriority else config.taskPrio
    taskStack := if config.taskStack = 0 then websocketTaskStack else config.taskStack }
  -- unlike the other strings, the old host is not released
  ifGiven (strdup env .host) config.host
  onlyIf (config.port ≠ 0) (writeConfig fun cfg => { cfg with port := config.port })
  ifGiven (replaceString env .username) config.username
  ifGiven (replaceString env .password) config.password
  ifGiven (replaceString env .uri) config.uri
  ifGiven (replaceString env .path) config.path
  writeConfig fun cfg => { cfg with
    networkTimeoutMs := websocketNetworkTimeoutMs
    userContext := config.userContext
    autoReconnect := !config.disableAutoReconnect }

/-- `handle = esp_transport_.._init(..)` and its check -/
def makeHandle (init : σ → Option Nat × σ) : Prog σ Nat := do
  let t ← modifyGet fun m => ((init m.transports.package).1,
    { m with transports := m.transports.run fun s => (init s).2 })
  match t with
  | none => throw .initFail
  | some t => return t

-- null is stored where there is no list; the field is null before
def createList (lib : EspTransport σ) : Prog σ Nat := do
  let l ← makeHandle lib.listInit
  modify (Machine.write (Client.setTransportList (some l)))
  return l

/-- `esp_transport_.._init` and its check, `esp_transport_set_default_port`,
`esp_transport_ssl_set_cert_data` where there is a certificate, and
`esp_transport_list_add` -/
def createTransport (lib : EspTransport σ) (init : σ → Option Nat × σ) (l : Nat)
    (scheme : Text) (defaultPort : Int) (certData : Option Text) : Prog σ Nat := do
  let t ← makeHandle init
  modify fun m =>
    { m with transports := m.transports.setUp lib l t scheme defaultPort certData }
  return t

def createTransports (env : Env) (lib : EspTransport σ) (config : ClientConfig) :
    Prog σ Unit := do
  let _ ← create env fun p c => { c with lock := p }
  let l ← createList lib
  let tcp ← createTransport lib lib.tcpInit l tcpScheme websocketTcpDefaultPort none
  let _ ← createTransport lib (lib.wsInit tcp) l wsScheme websocketTcpDefaultPort none
  -- the configuration is allocated later: `client->config` is null here
  onlyIf (config.transport = .overTcp) (asprintf env .scheme wsScheme .initFail)
  let ssl ← createTransport lib lib.sslInit l sslScheme websocketSslDefaultPort config.certPem
  let _ ← createTransport lib (lib.wsInit ssl) l wssScheme websocketSslDefaultPort none
  onlyIf (config.transport = .overTcp) (asprintf env .scheme wssScheme .initFail)

def createConfig (env : Env) (lib : EspTransport σ) (config : ClientConfig) : Prog σ Unit := do
  let _ ← create env fun p => Client.setConfig (p.map ConfigStorage.zero)
  ifGiven (espWebsocketClientSetUri env lib) config.uri
  espWebsocketClientSetConfig env config
  let cfg ← readConfig
  onlyIf ((cfg.strings .scheme).isNone) (asprintf env .scheme wsScheme .initFail)

def Client.setTicks (env : Env) (c : Client) : Client :=
  { c with
    keepaliveTickMs := env.tickMs 0
    reconnectTickMs := env.tickMs 1
    pingTickMs := env.tickMs 2 }

def Client.setRxBuffer (p : Option Nat) (c : Client) : Client := { c with rxBuffer := p }
def Client.setTxBuffer (p : Option Nat) (c : Client) : Client := { c with txBuffer := p }
def Client.setStatusBits (p : Option Nat) (c : Client) : Client := { c with statusBits := p }

def Client.setBufferSize (config : ClientConfig) (c : Client) : Client :=
  { c with bufferSize :=
      if config.bufferSize ≤ 0 then websocketBufferSizeByte else config.bufferSize }

def createBuffers (env : Env) (config : ClientConfig) : Prog σ Unit := do
  modify (Machine.write (Client.setTicks env))
  let _ ← create env Client.setRxBuffer
  let _ ← create env Client.setTxBuffer
  let _ ← create env Client.setStatusBits
  modify (Machine.write (Client.setBufferSize config))

/-- The pointers in the order in which `esp_websocket_client_destroy_config` frees them. -/
def destroyConfig : Option ConfigStorage → List (Option Nat)
  | none => []
  | some cfg =>
      [.host, .uri, .path, .scheme, .username, .password].map
        (fun f => CString.pointer (cfg.strings f)) ++ [some cfg.block]

/-- The pointers that `esp_websocket_client_destroy` releases itself, in its order. -/
def Client.pointers (c : Client) : List (Option Nat) :=
  [some c.eventHandle] ++ destroyConfig c.config ++
    [c.lock, c.txBuffer, c.rxBuffer, c.statusBits, some c.block]

/-- `esp_transport_list_destroy` and `vQueueDelete` are called unconditionally: with null
where the transport list or the lock has not been created. -/
def espWebsocketClientDestroy (lib : EspTransport σ) (m : Machine σ) : Machine σ where
  ledger := m.ledger.freeAll m.client.pointers
  nullPassed := m.nullPassed || m.client.transportList.isNone || m.client.lock.isNone
  client := { m.client with run := false, config := none }
  transports := m.transports.listDestroy lib m.client.transportList

def initBody (env : Env) (lib : EspTransport σ) (config : ClientConfig) : Prog σ Unit := do
  createTransports env lib config
  createConfig env lib config
  createBuffers env config

inductive InitResult (σ : Type)
  | null (ledger : Ledger) (nullPassed : Bool) (transports : Transports σ)
  | crashed
  | created (m : Machine σ)

def InitResult.ofMachine (m : Machine σ) : InitResult σ :=
  .null m.ledger m.nullPassed m.transports

/-- A failure goes on to `_websocket_init_fail`. -/
def initResult (lib : EspTransport σ) : Except Exit Unit × Machine σ → InitResult σ
  | (.ok _, m) => .created m
  | (.error .nullDereference, _) => .crashed
  | (.error _, m) => .ofMachine (espWebsocketClientDestroy lib m)

/-- `s` is what the package keeps in memory before the call. -/
def espWebsocketClientInit (env : Env) (lib : EspTransport σ) (config : ClientConfig)
    (l : Ledger) (s : σ) : InitResult σ :=
  match l.malloc env.allows with
  | (none, l) => .null l false ⟨s, 0⟩
  | (some block, l) =>
      match l.malloc env.allows with
      | (none, l) => .null (l.free (some block)) false ⟨s, 0⟩
      | (some eventHandle, l) =>
          initResult lib ((initBody env lib config).run.run
            ⟨l, false, Client.zero block eventHandle, ⟨s, 0⟩⟩)

end Esp32Iot.ClientResources
