import Esp32Iot.ClientConfiguring
import Esp32Iot.Startup

namespace Esp32Iot.ClientLifetime

open Esp32Iot.BlockLedger
open Esp32Iot.EarlyExit
open Esp32Iot.ClientResources
open Esp32Iot.ClientBlocks
open Esp32Iot.ClientSettings
open Esp32Iot.ClientConfiguring
open Esp32Iot.TransportPackage

variable {σ : Type}

/-- The handle of a transport, and whether it could be put in the list. -/
structure Entry where
  handle : Nat
  listed : Bool

/-- The transports of a client; `path` is the path that those in the list are given. -/
def clientTransports (config : ClientConfig) (path : Option Text) (tcp ws ssl wss : Entry) :
    List Made :=
  [⟨tcpScheme, tcp.handle, ⟨none, websocketTcpDefaultPort, none, none⟩, tcp.listed⟩,
    ⟨wsScheme, ws.handle, ⟨some tcp.handle, websocketTcpDefaultPort,
      if ws.listed then path else none, none⟩, ws.listed⟩,
    ⟨sslScheme, ssl.handle, ⟨none, websocketSslDefaultPort, none, config.certPem⟩, ssl.listed⟩,
    ⟨wssScheme, wss.handle, ⟨some ssl.handle, websocketSslDefaultPort,
      if wss.listed then path else none, none⟩, wss.listed⟩]

section Transports

variable {env : Env} {lib : EspTransport σ} {docs : Documented lib} {config : ClientConfig}
  {base : Multiset Nat} {i : Nat} {s : σ} {x : Transports σ} {c : Client}

def listMade (lib : EspTransport σ) (s : σ) : Transports σ := ⟨(lib.listInit s).2, 0⟩

def tcpMade (lib : EspTransport σ) (s : σ) (l tcp : Nat) : Transports σ :=
  ((listMade lib s).run fun s => (lib.tcpInit s).2).setUp lib l tcp tcpScheme
    websocketTcpDefaultPort none

def wsMade (lib : EspTransport σ) (s : σ) (l tcp ws : Nat) : Transports σ :=
  ((tcpMade lib s l tcp).run fun s => (lib.wsInit tcp s).2).setUp lib l ws wsScheme
    websocketTcpDefaultPort none

/-- The package gives a list and the first two transports. -/
def MakesWs (lib : EspTransport σ) (s : σ) : Prop :=
  ∃ l tcp, (lib.listInit s).1 = some l ∧ (lib.tcpInit (listMade lib s).package).1 = some tcp ∧
    (lib.wsInit tcp (tcpMade lib s l tcp).package).1.isSome

def Crashes (env : Env) (lib : EspTransport σ) (config : ClientConfig) (i : Nat) (s : σ) : Prop :=
  config.transport = .overTcp ∧ env.allows i = true ∧ MakesWs lib s

/-- The client that is left before the configuration is allocated. -/
structure Left (env : Env) (docs : Documented lib) (base : Multiset Nat) (i : Nat) (s : σ)
    (m : Machine σ) : Prop where
  handles : (m.client.lock.isSome ∧ m.client.transportList.isSome) ↔
    (env.allows i = true ∧ (lib.listInit s).1.isSome)
  transports : Accounted docs (docs.view s).held m.transports m.client.transportList
  accounts : m.ledger.Accounts (clientBlocks m.client + base)
  nullPassed : m.nullPassed = false

def TransportsLeft (env : Env) (docs : Documented lib) (config : ClientConfig)
    (base : Multiset Nat) (i : Nat) (s : σ) (e : Exit) (m : Machine σ) : Prop :=
  (e = .nullDereference ∧ Crashes env lib config i s) ∨
    (e = .initFail ∧ ¬Crashes env lib config i s ∧
      ((∃ j, env.allows j = false) ∨ ¬lib.Grants) ∧ Left env docs base i s m)

theorem left_of_handle {init : σ → Option Nat × σ} {make : Nat → Contents → Contents} {j : Nat}
    {e : Exit} {m : Machine σ} (h : HandleRefused init x base c j e m)
    (hinit : Makes docs.view init make) (hgrants : lib.Grants → ∀ s, (init s).1.isSome)
    (hspared : ¬Crashes env lib config i s)
    (hhandles : (c.lock.isSome ∧ c.transportList.isSome) ↔
      (env.allows i = true ∧ (lib.listInit s).1.isSome))
    (hx : Accounted docs (docs.view s).held x c.transportList) :
    TransportsLeft env docs config base i s e m := by
  obtain ⟨⟨rfl, hnull⟩, ⟨hclient, htransports, haccounts, hpassed⟩, -⟩ := h
  refine .inr ⟨rfl, hspared, .inr ?_, ?_, ?_, haccounts, hpassed⟩
  · intro hall
    have hsome := hgrants hall x.package
    rw [hnull] at hsome
    cases hsome
  · rw [hclient]
    exact hhandles
  · rw [hclient, htransports]
    exact hx.same (hinit.null x.package hnull) rfl

theorem createList_spec : Spec (At x base c i) (createList lib)
    (fun l m => (lib.listInit x.package).1 = some l ∧
      At (x.run fun s => (lib.listInit s).2) base (c.setTransportList (some l)) i m)
    (HandleRefused lib.listInit x base c i) := by
  apply makeHandle_spec.bind
  intro l
  apply Spec.assume
  intro hl
  have hwrite : Spec (At (x.run fun s => (lib.listInit s).2) base c i)
      (modify (Machine.write (Client.setTransportList (some l))))
      (fun _ => At (x.run fun s => (lib.listInit s).2) base (c.setTransportList (some l)) i)
      (HandleRefused lib.listInit x base c i) := by
    apply Spec.modify
    rintro m ⟨⟨rfl, htransports, haccounts, hnull⟩, hi⟩
    exact ⟨⟨rfl, htransports, haccounts, hnull⟩, hi⟩
  apply hwrite.bind
  intro _
  apply Spec.pure
  exact fun _ h => ⟨hl, h⟩

theorem createTransport_spec {init : σ → Option Nat × σ} {l : Nat} {scheme : Text}
    {defaultPort : Int} {certData : Option Text} :
    Spec (At x base c i) (createTransport lib init l scheme defaultPort certData)
      (fun t m => (init x.package).1 = some t ∧
        At ((x.run fun s => (init s).2).setUp lib l t scheme defaultPort certData) base c i m)
      (HandleRefused init x base c i) := by
  apply makeHandle_spec.bind
  intro t
  apply Spec.assume
  intro ht
  have hset : Spec (At (x.run fun s => (init s).2) base c i)
      (modify fun m : Machine σ =>
        { m with transports := m.transports.setUp lib l t scheme defaultPort certData })
      (fun _ => At ((x.run fun s => (init s).2).setUp lib l t scheme defaultPort certData) base
        c i)
      (HandleRefused init x base c i) := by
    apply Spec.modify
    rintro m ⟨⟨hclient, htransports, haccounts, hnull⟩, hi⟩
    refine ⟨⟨hclient, ?_, haccounts, hnull⟩, hi⟩
    show m.transports.setUp lib l t scheme defaultPort certData = _
    rw [htransports]
  apply hset.bind
  intro _
  apply Spec.pure
  exact fun _ h => ⟨ht, h⟩

theorem asprintf_crash {f : StringField} {text : Text} {exit : Exit}
    {Q : Unit → Machine σ → Prop} (h : c.config = none) :
    Spec (At x base c i) (asprintf env f text exit) Q (fun e _ => e = .nullDereference) := by
  have hmalloc : Spec (At x base c i) (malloc env) (fun _ m => m.client.config = none)
      (fun e _ => e = .nullDereference) := by
    apply Spec.modifyGet
    intro m hm
    show m.client.config = none
    rw [hm.holding.shape, h]
  have hwrite : ∀ g, Spec (fun m : Machine σ => m.client.config = none) (writeConfig g)
      (fun _ _ => False) (fun e _ => e = .nullDereference) := by
    intro g
    apply Spec.bind (Q := fun _ _ => False)
    · apply Spec.get_bind
      intro m hm
      simp only [hm]
      apply Spec.throw
      exact fun _ _ => rfl
    · intro _
      apply Spec.modify
      exact fun _ hfalse => hfalse
  apply hmalloc.bind
  intro p
  apply (hwrite _).bind
  intro _
  apply Spec.at_each
  exact fun _ hfalse => hfalse.elim

def withTransports (c : Client) (i l : Nat) : Client :=
  { c with lock := some i, transportList := some l }

structure Transported (docs : Documented lib) (config : ClientConfig) (path : Option Text)
    (s : σ) (l : Nat) (tcp ws ssl wss : Entry) (x : Transports σ) : Prop where
  list : (lib.listInit s).1 = some l
  linked : Linked docs (docs.view s).held l (clientTransports config path tcp ws ssl wss) x

theorem createTransports_spec (docs : Documented lib) (block eventHandle : Nat) :
    Spec (At ⟨s, 0⟩ base (Client.zero block eventHandle) i) (createTransports env lib config)
      (fun _ m => (config.transport ≠ .overTcp ∧ env.allows i = true) ∧
        ∃ l tcp ws ssl wss x, Transported docs config none s l tcp ws ssl wss x ∧
          At x base (withTransports (Client.zero block eventHandle) i l) (i + 1) m)
      (TransportsLeft env docs config base i s) := by
  apply Spec.bind
  · apply (create_spec env _).leaving
    · rintro e m ⟨⟨rfl, hrefused⟩, ⟨hclient, htransports, haccounts, hpassed⟩, -⟩
      refine .inr ⟨rfl, ?_, .inl ⟨i, hrefused⟩, ?_, ?_, haccounts, hpassed⟩
      · rintro ⟨-, hlock, -⟩
        cases hrefused.symm.trans hlock
      · rw [hclient]
        simp [Client.zero, hrefused]
      · rw [hclient, htransports]
        exact ⟨rfl, rfl⟩
    · intro p
      simp only [clientBlocks, Client.zero, owns_none]
      abel
  intro _
  apply Spec.assume
  rintro ⟨rfl, hlock⟩
  apply Spec.bind
  · apply createList_spec.leaving
    intro e m h
    apply left_of_handle h docs.listInit (fun hall => hall.listInit)
    · rintro ⟨-, -, l, tcp, hl, -⟩
      cases h.1.2.symm.trans hl
    · have hnone : (lib.listInit s).1 = none := h.1.2
      simp [Client.zero, hnone]
    · exact ⟨rfl, rfl⟩
  intro l
  apply Spec.assume
  intro hl
  have hhandles : ∀ c : Client, c.lock.isSome → c.transportList.isSome →
      ((c.lock.isSome ∧ c.transportList.isSome) ↔
        (env.allows i = true ∧ (lib.listInit s).1.isSome)) := by
    intro c hc hlist
    have hsome : (lib.listInit s).1.isSome := by
      rw [hl]
      rfl
    exact iff_of_true ⟨hc, hlist⟩ ⟨hlock, hsome⟩
  have hlist : Linked docs (docs.view s).held l [] (listMade lib s) := linked_listInit hl
  apply Spec.bind
  · apply createTransport_spec.leaving
    intro e m h
    apply left_of_handle h docs.tcpInit (fun hall => hall.tcpInit) _ (hhandles _ rfl rfl)
    · exact ⟨_, hlist⟩
    · rintro ⟨-, -, l', tcp, -, htcp, -⟩
      cases h.1.2.symm.trans htcp
  intro tcp
  apply Spec.assume
  intro htcp
  obtain ⟨tcpListed, htcps⟩ := hlist.setUp tcpScheme websocketTcpDefaultPort none
    docs.tcpInit htcp
  apply Spec.bind
  · apply createTransport_spec.leaving
    intro e m h
    apply left_of_handle h (docs.wsInit tcp) (fun hall => hall.wsInit tcp) _ (hhandles _ rfl rfl)
    · exact ⟨_, htcps⟩
    · rintro ⟨-, -, l', tcp', hl', htcp', hws⟩
      cases hl.symm.trans hl'
      cases htcp.symm.trans htcp'
      have hnone : (lib.wsInit tcp (tcpMade lib s l tcp).package).1 = none := h.1.2
      rw [hnone] at hws
      cases hws
  intro ws
  apply Spec.assume
  intro hws
  obtain ⟨wsListed, hwss⟩ := htcps.setUp wsScheme websocketTcpDefaultPort none
    (docs.wsInit tcp) hws
  apply Spec.bind (Q := fun _ m => config.transport ≠ .overTcp ∧ At (wsMade lib s l tcp ws) base
    (withTransports (Client.zero block eventHandle) i l) (i + 1) m)
  · apply Spec.onlyIf
    · intro hover
      apply (asprintf_crash rfl).leaving
      intro e _ he
      exact .inl ⟨he, hover, hlock, l, tcp, hl, htcp, by
        have hsome : (lib.wsInit tcp (tcpMade lib s l tcp).package).1 = some ws := hws
        rw [hsome]
        rfl⟩
    · exact fun hover m h => ⟨hover, h⟩
  intro _
  apply Spec.assume
  intro hover
  have hspared : ¬Crashes env lib config i s := fun hcrash => hover hcrash.1
  apply Spec.bind
  · apply createTransport_spec.leaving
    intro e m h
    exact left_of_handle h docs.sslInit (fun hall => hall.sslInit) hspared (hhandles _ rfl rfl)
      ⟨_, hwss⟩
  intro ssl
  apply Spec.assume
  intro hssl
  obtain ⟨sslListed, hssls⟩ := hwss.setUp sslScheme websocketSslDefaultPort config.certPem
    docs.sslInit hssl
  apply Spec.bind
  · apply createTransport_spec.leaving
    intro e m h
    exact left_of_handle h (docs.wsInit ssl) (fun hall => hall.wsInit ssl) hspared
      (hhandles _ rfl rfl) ⟨_, hssls⟩
  intro wss
  apply Spec.assume
  intro hwss'
  obtain ⟨wssListed, hall⟩ := hssls.setUp wssScheme websocketSslDefaultPort none
    (docs.wsInit ssl) hwss'
  apply Spec.onlyIf
  · exact fun hover' => absurd hover' hover
  · intro _ m h
    refine ⟨⟨hover, hlock⟩, l, ⟨tcp, tcpListed⟩, ⟨ws, wsListed⟩, ⟨ssl, sslListed⟩,
      ⟨wss, wssListed⟩, _, ⟨hl, ?_⟩, h⟩
    simp only [clientTransports, ite_self]
    exact hall

end Transports

section Config

variable {env : Env} {lib : EspTransport σ} {docs : Documented lib} {config : ClientConfig}
  {base held : Multiset Nat} {I : Option Nat → Transports σ → Prop} {k : Client} {i : Nat}
  {x : Transports σ} {s : σ} {l : Nat} {tcp ws ssl wss : Entry}

/-- The host of the URI is lost where the configuration gives a host of its own. -/
def lostBlocks (env : Env) (config : ClientConfig) : Nat :=
  if config.host.isSome ∧ (uriText env config Url.host).isSome then 1 else 0

def leakBound (env : Env) (config : ClientConfig) : Nat :=
  if (config.host.isSome ∧ (uriText env config Url.host).isSome) ∨
    (uriText env config Url.userinfo).isSome then 1 else 0

theorem lostBlocks_le : lostBlocks env config ≤ leakBound env config := by
  unfold lostBlocks leakBound
  split_ifs with h h'
  · exact le_rfl
  · exact absurd (.inl h) h'
  · omega
  · omega

theorem userinfoBlocks_le {text : Text} (h : config.uri = some text) :
    userinfoBlocks env text ≤ leakBound env config := by
  unfold userinfoBlocks leakBound uriText parsedUri
  rw [h]
  cases hparse : env.httpParserParseUrl text with
  | none => simp [hparse]
  | some puri =>
      by_cases hlen : puri.userinfo.len = 0
      · simp [hlen]
      · simp [hlen, hparse]

/-- The transports are those that the client has made, each with a scheme of its own. -/
def Kept (docs : Documented lib) (held : Multiset Nat) (list : Option Nat)
    (x : Transports σ) : Prop :=
  ∃ l made, list = some l ∧ Linked docs held l made x ∧ made.map (·.scheme) = allSchemes

theorem pathKept : PathKept lib (Kept docs held) := by
  rintro _ x path scheme hscheme ⟨l, made, rfl, hlinked, hschemes⟩
  refine ⟨l, _, rfl, hlinked.setPath path hschemes hscheme, ?_⟩
  rw [map_setPath _ fun e => e.setPath_handle.2.1]
  exact hschemes

theorem clientTransports_setPath (path : Option Text) :
    ((clientTransports config none tcp ws ssl wss).map (Made.setPath wsScheme path)).map
        (Made.setPath wssScheme path) = clientTransports config path tcp ws ssl wss := by
  have hschemes : tcpScheme ≠ wsScheme ∧ tcpScheme ≠ wssScheme ∧ wsScheme ≠ wssScheme ∧
      sslScheme ≠ wsScheme ∧ sslScheme ≠ wssScheme := by decide
  obtain ⟨htcpws, htcpwss, hwswss, hsslws, hsslwss⟩ := hschemes
  simp only [clientTransports, Made.setPath, List.map_cons, List.map_nil, htcpws, htcpwss,
    hsslws, hsslwss, hwswss.symm, and_false, and_true, if_false]
  cases ws.listed <;> cases wss.listed <;> simp [hwswss]

theorem Transported.setUri (h : Transported docs config none s l tcp ws ssl wss x)
    (path : Option Text) : Transported docs config path s l tcp ws ssl wss
      (setUriTransports lib (some l) path x) := by
  refine ⟨h.list, ?_⟩
  cases path with
  | none => exact h.linked
  | some text =>
      have hws : Linked docs (docs.view s).held l _ (x.setPath lib (some l) wsScheme text) :=
        h.linked.setPath (some text) rfl (by decide)
      have hwss : Linked docs (docs.view s).held l _
          ((x.setPath lib (some l) wsScheme text).setPath lib (some l) wssScheme text) :=
        hws.setPath (some text) (map_setPath _ (fun e => e.setPath_handle.2.1) _) (by decide)
      rw [clientTransports_setPath] at hwss
      exact hwss

theorem parseUri_spec (hI : PathKept lib I) (hlock : k.lock.isSome) :
    Spec (Configuring base I k 0 (Settings.zero x))
      (ifGiven (espWebsocketClientSetUri env lib) config.uri)
      (fun _ m => (∀ text, config.uri = some text → (env.httpParserParseUrl text).isSome) ∧
        Configuring base I k 0 ((Settings.zero x).setParsed lib k.transportList (parsedUri env config)) m)
      (Abandoned base I env config.uri (leakBound env config)) := by
  cases huri : config.uri with
  | none =>
      have hparsed : parsedUri env config = none := by
        simp [parsedUri, huri]
      apply Spec.pure
      intro m h
      rw [hparsed]
      exact ⟨by simp, h⟩
  | some text =>
      have hset : Spec (Configuring base I k 0 (Settings.zero x))
          (espWebsocketClientSetUri env lib text) _ _ := setUri_spec hI hlock rfl rfl rfl
      apply hset.weaken
      · exact fun _ h => h
      · rintro _ m ⟨puri, hparse, h⟩
        have hparsed : parsedUri env config = some (puri, text) := by
          simp [parsedUri, huri, hparse]
        rw [hparsed]
        refine ⟨?_, h⟩
        rintro _ ⟨rfl⟩
        simp [hparse]
      · intro e m h
        rw [zero_add] at h
        exact h.mono (userinfoBlocks_le huri)

theorem createConfig_spec (hI : PathKept lib I) (hlock : k.lock.isSome)
    (hx : I k.transportList x) (hconfig : k.config = none) :
    Spec (At x base k i) (createConfig env lib config)
      (fun _ m => (∀ text, config.uri = some text → (env.httpParserParseUrl text).isSome) ∧
        Configuring base I k (lostBlocks env config)
          (configured env lib k.transportList config x) m)
      (Abandoned base I env config.uri (leakBound env config)) := by
  have hcreate : Spec (At x base k i) (create env fun p => Client.setConfig (p.map .zero))
      (fun _ => Configuring base I k 0 (Settings.zero x))
      (Abandoned base I env config.uri (leakBound env config)) := by
    apply (create_spec env _).weaken
    · exact fun _ h => h
    · rintro p m ⟨-, ⟨hclient, htransports, haccounts, hnull⟩, -⟩
      refine ⟨0, ⟨rfl, hx⟩, ⟨.zero i, hclient, rfl⟩, htransports, ?_, hnull⟩
      rwa [zero_add]
    · rintro e m ⟨⟨rfl, hrefused⟩, ⟨hclient, htransports, haccounts, hnull⟩, -⟩
      constructor
      · simp
      · exact .inl ⟨i, hrefused⟩
      · exact ⟨0, Nat.zero_le _, by rwa [zero_add]⟩
      · rw [hclient]
        exact hlock
      · rw [hclient, htransports]
        exact hx
      · exact hnull
    · intro p
      cases p with
      | none => simp [clientBlocks, Client.setConfig, hconfig]
      | some a =>
          have hzero : configBlocks (.zero a) = {a} := rfl
          simp only [clientBlocks, Client.setConfig, hconfig, Option.map_some,
            Option.elim_some, Option.elim_none, owns_some, hzero]
          abel
  apply hcreate.bind
  intro _
  apply (parseUri_spec hI hlock).bind
  intro _
  apply Spec.assume
  intro hparse
  generalize hv : (Settings.zero x).setParsed lib k.transportList (parsedUri env config) = v
  have hhost : hostBlocks config v = lostBlocks env config := by
    rw [← hv, hostBlocks, setParsed_strings, lostBlocks]
  have hset : Spec (Configuring base I k 0 v) (espWebsocketClientSetConfig env config)
      (fun _ => Configuring base I k (lostBlocks env config) (v.setConfig config))
      (Abandoned base I env config.uri (leakBound env config)) := by
    have hbound : 0 + hostBlocks config v ≤ leakBound env config := by
      rw [hhost, zero_add]
      exact lostBlocks_le
    have hspec : Spec (Configuring base I k 0 v) (espWebsocketClientSetConfig env config)
        (fun _ => Configuring base I k (0 + hostBlocks config v) (v.setConfig config))
        (Abandoned base I env config.uri (leakBound env config)) := setConfig_spec hlock hbound
    rwa [hhost, zero_add] at hspec
  apply hset.bind
  intro _
  apply readSettings_spec.bind
  intro cfg
  apply Spec.assume
  intro hstrings
  have hscheme : (cfg.strings .scheme).isNone =
      ((v.setConfig config).strings .scheme).isNone := by
    rw [← hstrings, Option.isNone_map]
  have hresult : configured env lib k.transportList config x = (v.setConfig config).setScheme := by
    rw [configured, hv]
  rw [hresult, Settings.setScheme, Settings.onlyIf, ← hscheme]
  apply Spec.onlyIf
  · intro hnone
    rw [if_pos hnone]
    rw [hscheme, Option.isNone_iff_eq_none] at hnone
    apply (asprintf_spec hlock lostBlocks_le (by simp) hnone).after
    exact fun _ _ h => ⟨hparse, h⟩
  · intro hsome m h
    rw [if_neg hsome]
    exact ⟨hparse, h⟩

end Config

section Buffers

variable {env : Env} {config : ClientConfig} {base : Multiset Nat}
  {I : Option Nat → Transports σ → Prop} {k : Client} {n n' i : Nat} {v : Settings σ}
  {x : Transports σ} {uri : Option Text}

/-- The client has everything it needs and is configured to do `v`. -/
structure Complete (env : Env) (config : ClientConfig) (v : Settings σ) (c : Client) :
    Prop where
  settings : ∃ cfg, c.config = some cfg ∧ settingsOf cfg v.transports = v
  lock : c.lock.isSome
  rxBuffer : c.rxBuffer.isSome
  txBuffer : c.txBuffer.isSome
  statusBits : c.statusBits.isSome
  bufferSize : c.bufferSize =
    if config.bufferSize ≤ 0 then WebsocketClient.websocketBufferSizeByte else config.bufferSize
  keepaliveTickMs : c.keepaliveTickMs = env.tickMs 0
  reconnectTickMs : c.reconnectTickMs = env.tickMs 1
  pingTickMs : c.pingTickMs = env.tickMs 2
  run : c.run = false

theorem clientBlocks_rxBuffer {c : Client} (h : c.rxBuffer = none) (p : Option Nat) :
    clientBlocks (c.setRxBuffer p) = owns p + clientBlocks c := by
  simp only [clientBlocks, Client.setRxBuffer, h, owns_none]
  abel

theorem clientBlocks_txBuffer {c : Client} (h : c.txBuffer = none) (p : Option Nat) :
    clientBlocks (c.setTxBuffer p) = owns p + clientBlocks c := by
  simp only [clientBlocks, Client.setTxBuffer, h, owns_none]
  abel

theorem clientBlocks_statusBits {c : Client} (h : c.statusBits = none) (p : Option Nat) :
    clientBlocks (c.setStatusBits p) = owns p + clientBlocks c := by
  simp only [clientBlocks, Client.setStatusBits, h, owns_none]
  abel

theorem at_write {c : Client} {g : Client → Client} {E : Exit → Machine σ → Prop}
    (hblocks : clientBlocks (g c) = clientBlocks c) :
    Spec (At x base c i) (modify (Machine.write g)) (fun _ => At x base (g c) i) E := by
  apply Spec.modify
  rintro m ⟨⟨rfl, htransports, haccounts, hnull⟩, hi⟩
  refine ⟨⟨rfl, htransports, ?_, hnull⟩, hi⟩
  show m.ledger.Accounts (clientBlocks (g m.client) + base)
  rwa [hblocks]

theorem abandoned_of_refused {leak : Multiset Nat} {c : Client} {e : Exit} {m : Machine σ}
    (h : Refused env x (leak + base) c i e m) (hlock : c.lock.isSome)
    (hx : I c.transportList x) (hn : leak.card ≤ n) : Abandoned base I env uri n e m := by
  obtain ⟨⟨rfl, hrefused⟩, ⟨hclient, htransports, haccounts, hnull⟩, -⟩ := h
  constructor
  · simp
  · exact .inl ⟨i, hrefused⟩
  · exact ⟨leak, hn, haccounts⟩
  · rwa [hclient]
  · rwa [hclient, htransports]
  · exact hnull

/-- The construction is finished; `n` blocks belong to no one any more. -/
structure Finished (env : Env) (config : ClientConfig) (base : Multiset Nat)
    (list : Option Nat) (n : Nat) (v : Settings σ) (m : Machine σ) : Prop where
  complete : Complete env config v m.client
  transportList : m.client.transportList = list
  transports : m.transports = v.transports
  accounts : ∃ leak : Multiset Nat, leak.card = n ∧
    m.ledger.Accounts (clientBlocks m.client + (leak + base))
  nullPassed : m.nullPassed = false

theorem createBuffers_spec (hlock : k.lock.isSome) (hrun : k.run = false)
    (hrx : k.rxBuffer = none) (htx : k.txBuffer = none) (hbits : k.statusBits = none)
    (hn : n ≤ n') :
    Spec (Configuring base I k n v) (createBuffers env config)
      (fun _ => Finished env config base k.transportList n v) (Abandoned base I env uri n') := by
  have hstart : ∀ m, Configuring base I k n v m → ∃ cfg i, ∃ leak : Multiset Nat,
      ((leak.card = n ∧ I k.transportList v.transports) ∧ settingsOf cfg v.transports = v) ∧
        At v.transports (leak + base) { k with config := some cfg } i m := by
    rintro m ⟨leak, hcard, ⟨cfg, hclient, hv⟩, htransports, haccounts, hnull⟩
    exact ⟨cfg, m.ledger.requests, leak, ⟨hcard, hv⟩, ⟨hclient, htransports, haccounts, hnull⟩,
      rfl⟩
  apply Spec.before _ hstart
  apply Spec.choose
  intro cfg
  apply Spec.choose
  intro i
  apply Spec.choose
  intro leak
  apply Spec.assume
  rintro ⟨⟨hcard, hx⟩, hv⟩
  have hcard' : leak.card ≤ n' := hcard ▸ hn
  generalize hc : ({ k with config := some cfg } : Client) = c
  have hcreate : ∀ {store : Option Nat → Client → Client} {c : Client} {i : Nat},
      (∀ p, clientBlocks (store p c) = owns p + clientBlocks c) → (store none c).lock.isSome →
      I (store none c).transportList v.transports →
      Spec (At v.transports (leak + base) c i) (create env store)
        (fun _ => At v.transports (leak + base) (store (some i) c) (i + 1))
        (Abandoned base I env uri n') := by
    intro store c i hstore hlock hlist
    apply (create_spec env hstore).weaken
    · exact fun _ h => h
    · exact fun _ _ h => h.2
    · exact fun _ _ h => abandoned_of_refused h hlock hlist hcard'
  have hlock' : c.lock.isSome := by
    rw [← hc]
    exact hlock
  have hlist' : I c.transportList v.transports := by
    rw [← hc]
    exact hx
  have hrx' : c.rxBuffer = none := by
    rw [← hc]
    exact hrx
  have htx' : c.txBuffer = none := by
    rw [← hc]
    exact htx
  have hbits' : c.statusBits = none := by
    rw [← hc]
    exact hbits
  apply Spec.bind (at_write (g := Client.setTicks env) rfl)
  intro _
  apply Spec.bind (hcreate (clientBlocks_rxBuffer (c := c.setTicks env) hrx') hlock' hlist')
  intro _
  apply Spec.bind (hcreate (clientBlocks_txBuffer
    (c := (c.setTicks env).setRxBuffer (some i)) htx') hlock' hlist')
  intro _
  apply Spec.bind (hcreate (clientBlocks_statusBits
    (c := ((c.setTicks env).setRxBuffer (some i)).setTxBuffer (some (i + 1))) hbits')
    hlock' hlist')
  intro _
  apply (at_write (g := Client.setBufferSize config) rfl).after
  rintro _ m ⟨⟨hclient, htransports, haccounts, hnull⟩, -⟩
  refine ⟨?_, ?_, htransports, ⟨leak, hcard, haccounts⟩, hnull⟩
  · rw [hclient]
    constructor
    · refine ⟨cfg, ?_, hv⟩
      show c.config = some cfg
      rw [← hc]
    · exact hlock'
    · rfl
    · rfl
    · rfl
    · rfl
    · rfl
    · rfl
    · rfl
    · show c.run = false
      rw [← hc]
      exact hrun
  · rw [hclient]
    show c.transportList = k.transportList
    rw [← hc]

end Buffers

section Init

variable {env : Env} {lib : EspTransport σ} {docs : Documented lib} {config : ClientConfig}
  {base : Multiset Nat} {i : Nat} {s : σ}

def Parsed (env : Env) (config : ClientConfig) : Prop :=
  ∀ text, config.uri = some text → (env.httpParserParseUrl text).isSome

/-- The client is complete and has its transports, of which those in the list have the
path of the URI. -/
structure Built (env : Env) (docs : Documented lib) (config : ClientConfig) (s : σ)
    (m : Machine σ) : Prop where
  complete : Complete env config (clientSettings env config m.transports) m.client
  transports : ∃ l tcp ws ssl wss, m.client.transportList = some l ∧
    Transported docs config (uriText env config Url.path) s l tcp ws ssl wss m.transports

theorem initBody_spec (env : Env) (docs : Documented lib) (config : ClientConfig)
    (block eventHandle : Nat) :
    Spec (At ⟨s, 0⟩ base (Client.zero block eventHandle) i) (initBody env lib config)
      (fun _ m => (config.transport ≠ .overTcp ∧ Parsed env config) ∧
        Built env docs config s m ∧ (∃ leak : Multiset Nat, leak.card = lostBlocks env config ∧
          m.ledger.Accounts (clientBlocks m.client + (leak + base))) ∧ m.nullPassed = false)
      (fun e m => TransportsLeft env docs config base i s e m ∨
        (config.transport ≠ .overTcp ∧ env.allows i = true ∧ (lib.listInit s).1.isSome) ∧
          Abandoned base (Kept docs (docs.view s).held) env config.uri (leakBound env config)
            e m) := by
  apply ((createTransports_spec docs block eventHandle).leaving fun _ _ h => .inl h).bind
  intro _
  apply Spec.assume
  rintro ⟨hover, hlock⟩
  apply Spec.choose
  intro l
  apply Spec.choose
  intro tcp
  apply Spec.choose
  intro ws
  apply Spec.choose
  intro ssl
  apply Spec.choose
  intro wss
  apply Spec.choose
  intro x
  apply Spec.assume
  intro hmade
  have hbegun : config.transport ≠ .overTcp ∧ env.allows i = true ∧
      (lib.listInit s).1.isSome := by
    refine ⟨hover, hlock, ?_⟩
    rw [hmade.list]
    rfl
  have hkept : Kept docs (docs.view s).held (some l) x := ⟨l, _, rfl, hmade.linked, rfl⟩
  apply ((createConfig_spec (k := withTransports (Client.zero block eventHandle) i l) pathKept
    rfl hkept rfl).leaving fun _ _ h => .inr ⟨hbegun, h⟩).bind
  intro _
  apply Spec.assume
  intro hparsed
  rw [configured_eq]
  apply (createBuffers_spec (k := withTransports (Client.zero block eventHandle) i l) rfl rfl rfl
    rfl rfl lostBlocks_le).weaken
  · exact fun _ h => h
  · rintro _ m ⟨hcomplete, hlist, htransports, haccounts, hnull⟩
    refine ⟨⟨hover, hparsed⟩, ⟨?_, l, tcp, ws, ssl, wss, hlist, ?_⟩, haccounts, hnull⟩
    · rw [htransports]
      exact hcomplete
    · rw [htransports]
      exact hmade.setUri _
  · exact fun _ _ h => .inr ⟨hbegun, h⟩

def NullConfig (env : Env) (lib : EspTransport σ) (config : ClientConfig) (i : Nat) (s : σ) :
    Prop :=
  config.transport = .overTcp ∧ (∀ j < 3, env.allows (i + j) = true) ∧ MakesWs lib s

/-- No client is returned. At most one block belongs to no one any more, and the package
holds what it held before and the transports that were never in the list. -/
structure GivenUp (env : Env) (docs : Documented lib) (config : ClientConfig) (l : Ledger) (s : σ)
    (l' : Ledger) (nullPassed : Bool) (x : Transports σ) : Prop where
  cause : Cause env config.uri ∨ ¬lib.Grants
  accounts : ∃ leak : Multiset Nat, leak.card ≤ leakBound env config ∧
    l'.Accounts (leak + l.live)
  held : (docs.view x.package).held = x.unlisted + (docs.view s).held
  unlisted : lib.Accepts → x.unlisted = 0
  nullPassed : nullPassed = true ↔
    (env.allows l.requests = true ∧ env.allows (l.requests + 1) = true) ∧
      ¬(env.allows (l.requests + 2) = true ∧ (lib.listInit s).1.isSome)

def Outcome (env : Env) (docs : Documented lib) (config : ClientConfig) (l : Ledger) (s : σ) :
    InitResult σ → Prop
  | .crashed => NullConfig env lib config l.requests s
  | .null l' nullPassed x => ¬NullConfig env lib config l.requests s ∧
      GivenUp env docs config l s l' nullPassed x
  | .created m => ¬NullConfig env lib config l.requests s ∧ Parsed env config ∧
      Built env docs config s m ∧ (∃ leak : Multiset Nat, leak.card = lostBlocks env config ∧
        m.ledger.Accounts (clientBlocks m.client + (leak + l.live))) ∧ m.nullPassed = false

theorem destroy_accounts {m : Machine σ}
    (h : m.ledger.Accounts (clientBlocks m.client + base)) :
    (espWebsocketClientDestroy lib m).ledger.Accounts base := by
  apply Ledger.freeAll_accounts
  rwa [pointers_blocks]

theorem destroy_nullPassed {m : Machine σ} (h : m.nullPassed = false) :
    (espWebsocketClientDestroy lib m).nullPassed = true ↔
      ¬(m.client.lock.isSome ∧ m.client.transportList.isSome) := by
  show (m.nullPassed || m.client.transportList.isNone || m.client.lock.isNone) = true ↔ _
  rw [h]
  cases m.client.lock <;> cases m.client.transportList <;> simp

theorem nullConfig_iff (hblock : env.allows i = true) (hevent : env.allows (i + 1) = true) :
    NullConfig env lib config i s ↔ Crashes env lib config (i + 2) s := by
  constructor
  · rintro ⟨hover, hall, hws⟩
    exact ⟨hover, hall 2 (by omega), hws⟩
  · rintro ⟨hover, hlock, hws⟩
    refine ⟨hover, fun j hj => ?_, hws⟩
    obtain rfl | rfl | rfl : j = 0 ∨ j = 1 ∨ j = 2 := by omega
    · exact hblock
    · exact hevent
    · exact hlock

theorem body_outcome {l : Ledger} {m : Machine σ} {block eventHandle : Nat}
    (hblock : env.allows l.requests = true) (hevent : env.allows (l.requests + 1) = true)
    (h : At ⟨s, 0⟩ l.live (Client.zero block eventHandle) (l.requests + 2) m) :
    Outcome env docs config l s (initResult lib ((initBody env lib config).run.run m)) := by
  have hrun := Spec.iff_run.mp (initBody_spec env docs config block eventHandle) m h
  split at hrun
  · rename_i m' hok
    rw [hok]
    obtain ⟨⟨hover, hparsed⟩, hbuilt, haccounts, hnull⟩ := hrun
    exact ⟨fun hcrash => hover hcrash.1, hparsed, hbuilt, haccounts, hnull⟩
  · rename_i e m' herror
    rw [herror]
    obtain (⟨rfl, hcrash⟩ | ⟨rfl, hspared, hcause, hleft⟩) |
      ⟨⟨hover, hlock, hlist⟩, habandoned⟩ := hrun
    · exact (nullConfig_iff hblock hevent).mpr hcrash
    · refine ⟨?_, ?_, ⟨0, Nat.zero_le _, ?_⟩, hleft.transports.listDestroy,
        hleft.transports.unlisted_none, ?_⟩
      · rwa [nullConfig_iff hblock hevent]
      · exact hcause.imp_left .inl
      · rw [zero_add]
        exact destroy_accounts hleft.accounts
      · rw [destroy_nullPassed hleft.nullPassed, hleft.handles]
        simp [hblock, hevent]
    · have hresult : initResult lib (.error e, m') =
          .ofMachine (espWebsocketClientDestroy lib m') := by
        cases e with
        | nullDereference => exact absurd rfl habandoned.exit
        | espFail => rfl
        | espErrNoMem => rfl
        | initFail => rfl
      rw [hresult]
      obtain ⟨leak, hcard, haccounts⟩ := habandoned.accounts
      obtain ⟨list, made, hknown, hlinked, -⟩ := habandoned.transports
      have hx : Accounted docs (docs.view s).held m'.transports m'.client.transportList := by
        rw [hknown]
        exact ⟨made, hlinked⟩
      refine ⟨fun hcrash => hover hcrash.1, .inl habandoned.cause,
        ⟨leak, hcard, destroy_accounts haccounts⟩, hx.listDestroy, hx.unlisted_none, ?_⟩
      rw [destroy_nullPassed habandoned.nullPassed, hknown]
      simp [habandoned.lock, hlock, hlist]

theorem init_outcome (env : Env) (docs : Documented lib) (config : ClientConfig) (l : Ledger)
    (s : σ) (hl : l.doubleFree = false) :
    Outcome env docs config l s (espWebsocketClientInit env lib config l s) := by
  have hspared : ∀ j < 3, env.allows (l.requests + j) = false →
      ¬NullConfig env lib config l.requests s := by
    intro j hj hrefused hnull
    have hgranted := hnull.2.1 j hj
    rw [hrefused] at hgranted
    cases hgranted
  have hheld : (docs.view s).held = 0 + (docs.view s).held := (zero_add _).symm
  unfold espWebsocketClientInit
  cases hblock : env.allows l.requests with
  | false =>
      rw [Ledger.malloc_refused hblock]
      refine ⟨hspared 0 (by omega) hblock, .inl (.inl ⟨_, hblock⟩), ⟨0, Nat.zero_le _, ?_, hl⟩,
        hheld, fun _ => rfl, ?_⟩
      · rw [zero_add]
      · simp [hblock]
  | true =>
      rw [Ledger.malloc_granted hblock]
      cases hevent : env.allows (l.requests + 1) with
      | false =>
          have hsecond : Ledger.malloc env.allows
              ⟨l.requests + 1, l.requests ::ₘ l.live, l.doubleFree⟩ = (none, _) :=
            Ledger.malloc_refused hevent
          simp only [hsecond]
          refine ⟨hspared 1 (by omega) hevent, .inl (.inl ⟨_, hevent⟩),
            ⟨0, Nat.zero_le _, ?_⟩, hheld, fun _ => rfl, ?_⟩
          · apply Ledger.free_accounts
            rw [zero_add, owns_some, Multiset.singleton_add]
            exact ⟨rfl, hl⟩
          · simp [hevent]
      | true =>
          have hsecond : Ledger.malloc env.allows
              ⟨l.requests + 1, l.requests ::ₘ l.live, l.doubleFree⟩ =
                (some (l.requests + 1), _) :=
            Ledger.malloc_granted hevent
          simp only [hsecond]
          apply body_outcome hblock hevent
          refine ⟨⟨rfl, rfl, ⟨?_, hl⟩, rfl⟩, rfl⟩
          simp only [clientBlocks, Client.zero, owns_none, Option.elim_none, ← Multiset.singleton_add]
          abel

end Init

section Balance

variable {config : ClientConfig}

def InitResult.unlisted : InitResult σ → Multiset Nat
  | .created m => m.transports.unlisted
  | .null _ _ x => x.unlisted
  | .crashed => 0

end Balance

section Connection

variable {env : Env} {lib : EspTransport σ} {docs : Documented lib} {config : ClientConfig}
  {s : σ}

/-- The client that the loop of the task starts from. -/
def loopClient (c : Client) : WebsocketClient.Client where
  transport := false
  state := .unknow
  reconnectTickMs := c.reconnectTickMs
  pingTickMs := c.pingTickMs
  waitTimeoutMs := 0
  autoReconnect := c.config.elim false (·.autoReconnect)
  run := c.run
  bufferSize := c.bufferSize

theorem Complete.loopClient {x : Transports σ} {c : Client}
    (h : Complete env config (clientSettings env config x) c) :
    loopClient c = WebsocketClient.espWebsocketClientInit
      ⟨config.disableAutoReconnect, config.bufferSize⟩ (env.tickMs 1) (env.tickMs 2) := by
  obtain ⟨cfg, hcfg, hsettings⟩ := h.settings
  have hreconnect : cfg.autoReconnect = !config.disableAutoReconnect :=
    congrArg (fun v => v.options.autoReconnect) hsettings
  simp only [ClientLifetime.loopClient, WebsocketClient.espWebsocketClientInit, hcfg,
    Option.elim_some, hreconnect, h.reconnectTickMs, h.pingTickMs, h.run, h.bufferSize]

/-- The client that `xConnect` gets is the one with which the start of the firmware goes on. -/
theorem created_isNew (docs : Documented lib) {uri : Text} {port : Int} {l : Ledger}
    {m : Machine σ} (hl : l.doubleFree = false)
    (hinit : espWebsocketClientInit env lib (xConectionConfig uri port) l s = .created m) :
    Startup.IsNew (loopClient m.client) := by
  have houtcome := init_outcome env docs (xConectionConfig uri port) l s hl
  rw [hinit] at houtcome
  obtain ⟨-, -, hbuilt, -⟩ := houtcome
  exact ⟨env.tickMs 1, env.tickMs 2, hbuilt.complete.loopClient⟩

end Connection

end Esp32Iot.ClientLifetime
