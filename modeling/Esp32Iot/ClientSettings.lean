import Esp32Iot.ClientResources

namespace Esp32Iot.ClientSettings

open Esp32Iot.ClientResources
open Esp32Iot.TransportPackage

structure Options where
  taskStack : Int
  taskPrio : Int
  autoReconnect : Bool
  userContext : Nat
  networkTimeoutMs : Int
  deriving DecidableEq, Repr

@[ext] structure Settings (σ : Type) where
  strings : StringField → Option Text
  port : Int
  options : Options
  transports : Transports σ

variable {σ : Type}

def settingsOf (cfg : ConfigStorage) (x : Transports σ) : Settings σ where
  strings := fun f => (cfg.strings f).map (·.text)
  port := cfg.port
  options :=
    { taskStack := cfg.taskStack
      taskPrio := cfg.taskPrio
      autoReconnect := cfg.autoReconnect
      userContext := cfg.userContext
      networkTimeoutMs := cfg.networkTimeoutMs }
  transports := x

def Settings.setString (f : StringField) (text : Option Text) (v : Settings σ) : Settings σ :=
  { v with strings := Function.update v.strings f text }

def Settings.onlyIf (c : Prop) [Decidable c] (g : Settings σ → Settings σ) (v : Settings σ) : Settings σ :=
  if c then g v else v

def Settings.setGiven (f : StringField) (text : Option Text) (v : Settings σ) : Settings σ :=
  v.onlyIf text.isSome (Settings.setString f text)

def Settings.setPort (port : Int) (v : Settings σ) : Settings σ := { v with port := port }

def Settings.setTask (config : ClientConfig) (v : Settings σ) : Settings σ :=
  { v with options := { v.options with
    taskPrio := if config.taskPrio ≤ 0 then websocketTaskPriority else config.taskPrio
    taskStack := if config.taskStack = 0 then websocketTaskStack else config.taskStack } }

def Settings.setOptions (config : ClientConfig) (v : Settings σ) : Settings σ :=
  { v with options := { v.options with
    networkTimeoutMs := websocketNetworkTimeoutMs
    userContext := config.userContext
    autoReconnect := !config.disableAutoReconnect } }

def Settings.setTransportPath (lib : EspTransport σ) (l : Option Nat) (scheme : Text)
    (path : Option Text) (v : Settings σ) : Settings σ :=
  { v with transports := v.transports.setPath lib l scheme path }

def Settings.setPath (lib : EspTransport σ) (l : Option Nat) (path : Text) (v : Settings σ) :
    Settings σ :=
  v.setString .path (some path)
    |>.setTransportPath lib l wsScheme (some path)
    |>.setTransportPath lib l wssScheme (some path)

def Settings.setUserinfo (text : Text) (v : Settings σ) : Settings σ :=
  (v.onlyIf (':' ∈ text) (Settings.setString .password (text.dropWhile (· ≠ ':')).tail)).setString
    .username (text.takeWhile (· ≠ ':'))

def Settings.setUri (lib : EspTransport σ) (l : Option Nat) (puri : Url) (uri : Text)
    (v : Settings σ) : Settings σ :=
  v.onlyIf (puri.schema.len ≠ 0) (Settings.setString .scheme (puri.schema.text uri))
    |>.onlyIf (puri.host.len ≠ 0) (Settings.setString .host (puri.host.text uri))
    |>.onlyIf (puri.path.len ≠ 0) (Settings.setPath lib l (puri.path.text uri))
    |>.onlyIf (puri.port.off ≠ 0) (Settings.setPort (strtol (uri.drop puri.port.off)))
    |>.onlyIf (puri.userinfo.len ≠ 0) (Settings.setUserinfo (puri.userinfo.text uri))

def Settings.setConfig (config : ClientConfig) (v : Settings σ) : Settings σ :=
  v.setTask config
    |>.setGiven .host config.host
    |>.onlyIf (config.port ≠ 0) (Settings.setPort config.port)
    |>.setGiven .username config.username
    |>.setGiven .password config.password
    |>.setGiven .uri config.uri
    |>.setGiven .path config.path
    |>.setOptions config

section Result

variable {env : Env} {lib : EspTransport σ} {l : Option Nat} {config : ClientConfig}
  {v : Settings σ} {x : Transports σ}

def parsedUri (env : Env) (config : ClientConfig) : Option (Url × Text) :=
  config.uri.bind fun text => (env.httpParserParseUrl text).map (·, text)

/-- The text of a part of the URI, unless the part is empty. -/
def uriText (env : Env) (config : ClientConfig) (part : Url → UrlField) : Option Text :=
  (parsedUri env config).bind fun (puri, text) =>
    if (part puri).len ≠ 0 then some ((part puri).text text) else none

def uriPort (env : Env) (config : ClientConfig) : Option Int :=
  (parsedUri env config).bind fun (puri, text) =>
    if puri.port.off ≠ 0 then some (strtol (text.drop puri.port.off)) else none

def uriUsername (env : Env) (config : ClientConfig) : Option Text :=
  (uriText env config Url.userinfo).map fun text => text.takeWhile (· ≠ ':')

def uriPassword (env : Env) (config : ClientConfig) : Option Text :=
  (uriText env config Url.userinfo).bind fun text =>
    if ':' ∈ text then some (text.dropWhile (· ≠ ':')).tail else none

/-- What a client with the transports `x` is configured to do. -/
def clientSettings (env : Env) (config : ClientConfig) (x : Transports σ) : Settings σ where
  strings
    | .uri => config.uri
    | .host => config.host.or (uriText env config Url.host)
    | .path => config.path.or (uriText env config Url.path)
    | .scheme => (uriText env config Url.schema).or (some wsScheme)
    | .username => config.username.or (uriUsername env config)
    | .password => config.password.or (uriPassword env config)
  port := if config.port ≠ 0 then config.port else (uriPort env config).getD 0
  options :=
    { taskStack := if config.taskStack = 0 then websocketTaskStack else config.taskStack
      taskPrio := if config.taskPrio ≤ 0 then websocketTaskPriority else config.taskPrio
      autoReconnect := !config.disableAutoReconnect
      userContext := config.userContext
      networkTimeoutMs := websocketNetworkTimeoutMs }
  transports := x

/-- An allocated configuration before anything is stored in it. -/
def Settings.zero (x : Transports σ) : Settings σ := settingsOf (.zero 0) x

def Settings.setParsed (lib : EspTransport σ) (l : Option Nat) (parsed : Option (Url × Text))
    (v : Settings σ) : Settings σ :=
  match parsed with
  | none => v
  | some (puri, text) => v.setUri lib l puri text

/-- The path of the URI is handed on to the transports. -/
def setUriTransports (lib : EspTransport σ) (l : Option Nat) (path : Option Text)
    (x : Transports σ) : Transports σ :=
  if path.isSome then (x.setPath lib l wsScheme path).setPath lib l wssScheme path else x

def Settings.setScheme (v : Settings σ) : Settings σ :=
  v.onlyIf (v.strings .scheme).isNone (.setString .scheme wsScheme)

def configured (env : Env) (lib : EspTransport σ) (l : Option Nat) (config : ClientConfig)
    (x : Transports σ) : Settings σ :=
  ((Settings.zero x).setParsed lib l (parsedUri env config)).setConfig config |>.setScheme

theorem onlyIf_field {β : Type} (field : Settings σ → β) {c : Prop} [Decidable c]
    {g : Settings σ → Settings σ} :
    field (v.onlyIf c g) = if c then field (g v) else field v :=
  apply_ite field c (g v) v

theorem onlyIf_same {β : Type} (field : Settings σ → β) {c : Prop} [Decidable c]
    {g : Settings σ → Settings σ} (h : field (g v) = field v) :
    field (v.onlyIf c g) = field v := by
  rw [onlyIf_field field, h, ite_self]

theorem setGiven_same {β : Type} (field : Settings σ → β) {f : StringField}
    {given : Option Text} (h : ∀ (w : Settings σ) t, field (w.setString f t) = field w) :
    field (v.setGiven f given) = field v :=
  onlyIf_same field (h v given)

theorem setUserinfo_same {β : Type} (field : Settings σ → β) {text : Text}
    (h : ∀ (w : Settings σ) f t, field (w.setString f t) = field w) :
    field (v.setUserinfo text) = field v := by
  rw [Settings.setUserinfo, h, onlyIf_same field (h v _ _)]

@[simp] theorem strings_onlyIf {c : Prop} [Decidable c] {g : Settings σ → Settings σ} :
    (v.onlyIf c g).strings = if c then (g v).strings else v.strings :=
  onlyIf_field Settings.strings

@[simp] theorem strings_setString {f : StringField} {t : Option Text} :
    (v.setString f t).strings = Function.update v.strings f t := rfl

@[simp] theorem strings_setPort {port : Int} : (v.setPort port).strings = v.strings := rfl

@[simp] theorem strings_setPath {path : Text} :
    (v.setPath lib l path).strings = Function.update v.strings .path (some path) := rfl

@[simp] theorem strings_zero : (Settings.zero x).strings = fun _ => none := rfl

@[simp] theorem strings_setUserinfo {text : Text} : (v.setUserinfo text).strings =
    Function.update (if ':' ∈ text then
        Function.update v.strings .password (text.dropWhile (· ≠ ':')).tail else v.strings)
      .username (text.takeWhile (· ≠ ':')) := by
  unfold Settings.setUserinfo
  split_ifs <;> simp [*]

theorem setUri_strings (puri : Url) (text : Text) (f : StringField)
    (hparsed : parsedUri env config = some (puri, text)) :
    ((Settings.zero x).setUri lib l puri text).strings f =
      match f with
      | .uri => none
      | .host => uriText env config Url.host
      | .path => uriText env config Url.path
      | .scheme => uriText env config Url.schema
      | .username => uriUsername env config
      | .password => uriPassword env config := by
  cases f <;>
    simp only [Settings.setUri, strings_onlyIf, strings_setString, strings_setPort,
      strings_setPath, strings_setUserinfo, strings_zero, uriText, uriUsername, uriPassword,
      hparsed, ite_apply, Function.update_apply, Option.bind_some, reduceCtorEq, if_false, if_true, ite_self]
  · split_ifs <;> rfl
  · split_ifs <;> simp [*]

theorem setParsed_strings (f : StringField) :
    ((Settings.zero x).setParsed lib l (parsedUri env config)).strings f =
      match f with
      | .uri => none
      | .host => uriText env config Url.host
      | .path => uriText env config Url.path
      | .scheme => uriText env config Url.schema
      | .username => uriUsername env config
      | .password => uriPassword env config := by
  cases hparsed : parsedUri env config with
  | none =>
      cases f <;> simp [Settings.setParsed, uriText, uriUsername, uriPassword, hparsed]
  | some parsed =>
      obtain ⟨puri, text⟩ := parsed
      exact setUri_strings puri text f hparsed

theorem setGiven_strings {given : Option Text} {f f' : StringField} :
    (v.setGiven f given).strings f' = if f' = f then given.or (v.strings f) else v.strings f' := by
  unfold Settings.setGiven
  cases given with
  | none =>
      simp only [strings_onlyIf, Option.isSome_none, Bool.false_eq_true, if_false, Option.none_or]
      split_ifs with hf
      · rw [hf]
      · rfl
  | some text =>
      simp [Function.update_apply]

theorem setConfig_strings (f : StringField) :
    (v.setConfig config).strings f =
      match f with
      | .uri => config.uri.or (v.strings .uri)
      | .host => config.host.or (v.strings .host)
      | .path => config.path.or (v.strings .path)
      | .scheme => v.strings .scheme
      | .username => config.username.or (v.strings .username)
      | .password => config.password.or (v.strings .password) := by
  have htask : (v.setTask config).strings = v.strings := rfl
  have hoptions : ∀ w : Settings σ, (w.setOptions config).strings = w.strings := fun _ => rfl
  cases f <;>
    simp only [Settings.setConfig, hoptions, setGiven_strings, strings_onlyIf, strings_setPort,
      ite_self, htask, reduceCtorEq, if_false, if_true]

theorem configured_strings (f : StringField) :
    (configured env lib l config x).strings f =
      match f with
      | .uri => config.uri
      | .host => config.host.or (uriText env config Url.host)
      | .path => config.path.or (uriText env config Url.path)
      | .scheme => (uriText env config Url.schema).or (some wsScheme)
      | .username => config.username.or (uriUsername env config)
      | .password => config.password.or (uriPassword env config) := by
  have hscheme : ∀ w : Settings σ, w.setScheme.strings f =
      if f = .scheme then (w.strings .scheme).or (some wsScheme) else w.strings f := by
    intro w
    unfold Settings.setScheme
    cases hs : w.strings .scheme with
    | none => simp [Function.update_apply]
    | some text =>
        simp only [strings_onlyIf, Option.isNone_some, Bool.false_eq_true, if_false,
          Option.some_or]
        split_ifs with hf
        · rw [hf, hs]
        · rfl
  rw [configured, hscheme]
  cases f <;> simp [setConfig_strings, setParsed_strings]

theorem setUri_port (puri : Url) (text : Text) :
    (v.setUri lib l puri text).port =
      if puri.port.off ≠ 0 then strtol (text.drop puri.port.off) else v.port := by
  unfold Settings.setUri
  rw [onlyIf_same Settings.port (setUserinfo_same _ fun _ _ _ => rfl),
    onlyIf_field Settings.port, onlyIf_same Settings.port rfl, onlyIf_same Settings.port rfl,
    onlyIf_same Settings.port rfl]
  rfl

theorem setUri_transports (puri : Url) (text : Text) :
    (v.setUri lib l puri text).transports = setUriTransports lib l
      (if puri.path.len ≠ 0 then some (puri.path.text text) else none) v.transports := by
  have hstrings : (Settings.onlyIf (puri.host.len ≠ 0)
      (.setString .host (some (puri.host.text text)))
      (v.onlyIf (puri.schema.len ≠ 0)
        (.setString .scheme (some (puri.schema.text text))))).transports = v.transports := by
    rw [onlyIf_same Settings.transports rfl, onlyIf_same Settings.transports rfl]
  unfold Settings.setUri
  rw [onlyIf_same Settings.transports (setUserinfo_same _ fun _ _ _ => rfl),
    onlyIf_same Settings.transports rfl, onlyIf_field Settings.transports, hstrings]
  rw [← hstrings]
  split <;> rfl

theorem setConfig_port :
    (v.setConfig config).port = if config.port ≠ 0 then config.port else v.port := by
  show Settings.port (Settings.setGiven _ _ _) = _
  rw [setGiven_same Settings.port fun _ _ => rfl, setGiven_same Settings.port fun _ _ => rfl,
    setGiven_same Settings.port fun _ _ => rfl, setGiven_same Settings.port fun _ _ => rfl,
    onlyIf_field Settings.port, setGiven_same Settings.port fun _ _ => rfl]
  rfl

/-- What neither a string nor the port changes is set from the configuration alone. -/
theorem setConfig_options :
    (v.setConfig config).options = ((v.setTask config).setOptions config).options := by
  have hstrings : ∀ (w : Settings σ) f given, (w.setGiven f given).options = w.options :=
    fun w f given => setGiven_same Settings.options fun _ _ => rfl
  simp only [Settings.setConfig, Settings.setOptions, hstrings]
  rw [onlyIf_same Settings.options rfl, hstrings]

theorem setConfig_transports : (v.setConfig config).transports = v.transports := by
  have hstrings : ∀ (w : Settings σ) f given, (w.setGiven f given).transports = w.transports :=
    fun w f given => setGiven_same Settings.transports fun _ _ => rfl
  simp only [Settings.setConfig, Settings.setOptions, hstrings]
  rw [onlyIf_same Settings.transports rfl, hstrings]
  rfl

/-- What a field of the configuration gives wins over what the URI gives, except for the
path of the transports, which only the URI gives. -/
theorem configured_eq : configured env lib l config x =
    clientSettings env config (setUriTransports lib l (uriText env config Url.path) x) := by
  have hport : ((Settings.zero x).setParsed lib l (parsedUri env config)).port =
      (uriPort env config).getD 0 := by
    unfold uriPort
    cases parsedUri env config with
    | none => rfl
    | some parsed =>
        obtain ⟨puri, text⟩ := parsed
        simp only [Settings.setParsed, setUri_port, Option.bind_some]
        split_ifs <;> rfl
  have htransports : ((Settings.zero x).setParsed lib l (parsedUri env config)).transports =
      setUriTransports lib l (uriText env config Url.path) x := by
    unfold uriText
    cases parsedUri env config with
    | none => rfl
    | some parsed =>
        obtain ⟨puri, text⟩ := parsed
        exact setUri_transports puri text
  apply Settings.ext
  · funext f
    rw [configured_strings]
    cases f <;> rfl
  · rw [configured, Settings.setScheme, onlyIf_same Settings.port rfl, setConfig_port, hport]
    rfl
  · rw [configured, Settings.setScheme, onlyIf_same Settings.options rfl, setConfig_options]
    rfl
  · rw [configured, Settings.setScheme, onlyIf_same Settings.transports rfl,
      setConfig_transports, htransports]
    rfl

end Result

end Esp32Iot.ClientSettings
