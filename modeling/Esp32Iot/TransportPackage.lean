import Mathlib.Algebra.Order.Group.Multiset
import Mathlib.Data.List.Nodup
import Mathlib.Data.Multiset.AddSub
import Mathlib.Tactic.Abel

namespace Esp32Iot.TransportPackage

abbrev Text := List Char

def tcpScheme : Text := "_tcp".toList
def wsScheme : Text := "ws".toList
def sslScheme : Text := "_ssl".toList
def wssScheme : Text := "wss".toList

def allSchemes : List Text := [tcpScheme, wsScheme, sslScheme, wssScheme]

/-- The functions of the `esp_transport` package that the client calls. `σ` is what the
package keeps in memory, and a handle is a number. -/
structure EspTransport (σ : Type) where
  listInit : σ → Option Nat × σ
  tcpInit : σ → Option Nat × σ
  sslInit : σ → Option Nat × σ
  wsInit (parent : Nat) : σ → Option Nat × σ
  setDefaultPort (t : Nat) (port : Int) : σ → σ
  getDefaultPort (t : Nat) : σ → Int
  sslSetCertData (t : Nat) (certData : Text) : σ → σ
  wsSetPath (t : Nat) (path : Option Text) : σ → σ
  listAdd (l t : Nat) (scheme : Text) : σ → Bool × σ
  listGetTransport (l : Nat) (scheme : Text) : σ → Option Nat
  listDestroy (l : Nat) : σ → σ

structure Transport where
  parent : Option Nat
  defaultPort : Int
  path : Option Text
  certData : Option Text
  deriving DecidableEq, Repr

/-- A transport that nothing has been set for. -/
def Transport.over (parent : Option Nat) : Transport := ⟨parent, 0, none, none⟩

/-- The handles that have been returned and not released, the lists in their order, and
what has been set for each transport. -/
structure Contents where
  held : Multiset Nat
  lists : Nat → List (Text × Nat)
  transports : Nat → Transport

namespace Contents

def makeList (l : Nat) (p : Contents) : Contents :=
  { p with held := l ::ₘ p.held, lists := Function.update p.lists l [] }

def make (transport : Transport) (t : Nat) (p : Contents) : Contents :=
  { p with held := t ::ₘ p.held, transports := Function.update p.transports t transport }

def change (t : Nat) (f : Transport → Transport) (p : Contents) : Contents :=
  { p with transports := Function.update p.transports t (f (p.transports t)) }

def add (l t : Nat) (scheme : Text) (p : Contents) : Contents :=
  { p with lists := Function.update p.lists l (p.lists l ++ [(scheme, t)]) }

/-- What is still held when a list and the transports in it have been released. -/
def afterDestroy (l : Nat) (p : Contents) : Multiset Nat :=
  p.held - (l ::ₘ ((p.lists l).map Prod.snd : List Nat))

end Contents

variable {σ : Type}

/-- A handle that is not in use is returned, or null and nothing has changed. -/
structure Makes (view : σ → Contents) (init : σ → Option Nat × σ)
    (make : Nat → Contents → Contents) : Prop where
  null : ∀ s, (init s).1 = none → view (init s).2 = view s
  made : ∀ s t, (init s).1 = some t → t ∉ (view s).held ∧ view (init s).2 = make t (view s)

/-- The package does what it is documented to do to the handles it has given out. Schemes
may be compared in its own way as long as those of the client are told apart. -/
structure Documented (lib : EspTransport σ) where
  view : σ → Contents
  sameScheme : Text → Text → Bool
  listInit : Makes view lib.listInit Contents.makeList
  tcpInit : Makes view lib.tcpInit (Contents.make (.over none))
  sslInit : Makes view lib.sslInit (Contents.make (.over none))
  wsInit : ∀ parent, Makes view (lib.wsInit parent) (Contents.make (.over (some parent)))
  setDefaultPort : ∀ t port s, t ∈ (view s).held → view (lib.setDefaultPort t port s) =
    (view s).change t fun transport => { transport with defaultPort := port }
  getDefaultPort : ∀ t s, t ∈ (view s).held →
    lib.getDefaultPort t s = ((view s).transports t).defaultPort
  sslSetCertData : ∀ t certData s, t ∈ (view s).held → view (lib.sslSetCertData t certData s) =
    (view s).change t fun transport => { transport with certData := some certData }
  wsSetPath : ∀ t path s, t ∈ (view s).held → view (lib.wsSetPath t path s) =
    (view s).change t fun transport => { transport with path := path }
  listAdd : ∀ l t scheme s, l ∈ (view s).held → t ∈ (view s).held →
    view (lib.listAdd l t scheme s).2 =
      if (lib.listAdd l t scheme s).1 then (view s).add l t scheme else view s
  listGetTransport : ∀ l scheme s, l ∈ (view s).held → lib.listGetTransport l scheme s =
    (((view s).lists l).find? fun entry => sameScheme entry.1 scheme).map Prod.snd
  sameScheme_listed : ∀ a ∈ allSchemes, ∀ b ∈ [wsScheme, wssScheme],
    sameScheme a b = decide (a = b)
  listDestroy : ∀ l s, l ∈ (view s).held →
    (view (lib.listDestroy l s)).held = (view s).afterDestroy l

/-- No handle is refused. -/
structure EspTransport.Grants (lib : EspTransport σ) : Prop where
  listInit : ∀ s, (lib.listInit s).1.isSome
  tcpInit : ∀ s, (lib.tcpInit s).1.isSome
  sslInit : ∀ s, (lib.sslInit s).1.isSome
  wsInit : ∀ parent s, (lib.wsInit parent s).1.isSome

/-- Every transport can be put in the list. -/
def EspTransport.Accepts (lib : EspTransport σ) : Prop :=
  ∀ l t scheme s, (lib.listAdd l t scheme s).1 = true

/-- The package as the client uses it; `unlisted`, the transports that could not be put in
the list, is ghost. -/
structure Transports (σ : Type) where
  package : σ
  unlisted : Multiset Nat

namespace Transports

variable (lib : EspTransport σ)

def run (f : σ → σ) (x : Transports σ) : Transports σ := { x with package := f x.package }

-- the result is not looked at
def listAdd (l t : Nat) (scheme : Text) (x : Transports σ) : Transports σ where
  package := (lib.listAdd l t scheme x.package).2
  unlisted := if (lib.listAdd l t scheme x.package).1 then x.unlisted else t ::ₘ x.unlisted

/-- A transport is set up and put in the list. -/
def setUp (l t : Nat) (scheme : Text) (defaultPort : Int) (certData : Option Text)
    (x : Transports σ) : Transports σ :=
  ((x.run (lib.setDefaultPort t defaultPort)).run
    (certData.elim id (lib.sslSetCertData t))).listAdd lib l t scheme

/-- `esp_transport_list_get_transport` and, if there is one, `esp_transport_ws_set_path` -/
def setPath (l : Option Nat) (scheme : Text) (path : Option Text) (x : Transports σ) :
    Transports σ :=
  match l.bind fun l => lib.listGetTransport l scheme x.package with
  | none => x
  | some t => x.run (lib.wsSetPath t path)

def listDestroy (l : Option Nat) (x : Transports σ) : Transports σ :=
  x.run (l.elim id lib.listDestroy)

end Transports

/-- A transport that the client has made. -/
structure Made where
  scheme : Text
  handle : Nat
  transport : Transport
  listed : Bool

def Made.setPath (scheme : Text) (path : Option Text) (e : Made) : Made :=
  if e.listed = true ∧ e.scheme = scheme then
    { e with transport := { e.transport with path := path } }
  else e

variable {lib : EspTransport σ}

/-- What the package holds is `base`, the list `l` and the transports made, of which the
list has those that could be put there. -/
structure Linked (docs : Documented lib) (base : Multiset Nat) (l : Nat) (made : List Made)
    (x : Transports σ) : Prop where
  held : (docs.view x.package).held = l ::ₘ ((made.map (·.handle) : List Nat) + base)
  lists : (docs.view x.package).lists l =
    (made.filter (·.listed)).map fun e => (e.scheme, e.handle)
  transports : ∀ e ∈ made, (docs.view x.package).transports e.handle = e.transport
  distinct : (made.map (·.handle)).Nodup
  unlisted : x.unlisted = ((made.filter (!·.listed)).map (·.handle) : List Nat)
  accepted : lib.Accepts → ∀ e ∈ made, e.listed = true

section Linked

variable {docs : Documented lib} {base : Multiset Nat} {l t : Nat} {made : List Made}
  {x : Transports σ} {s : σ}

theorem Linked.list_held (h : Linked docs base l made x) : l ∈ (docs.view x.package).held := by
  rw [h.held]
  exact Multiset.mem_cons_self l _

theorem Linked.made_held (h : Linked docs base l made x) {e : Made} (he : e ∈ made) :
    e.handle ∈ (docs.view x.package).held := by
  rw [h.held]
  apply Multiset.mem_cons_of_mem
  apply Multiset.mem_add.mpr
  exact .inl (Multiset.mem_coe.mpr (List.mem_map_of_mem he))

theorem linked_listInit (h : (lib.listInit s).1 = some l) :
    Linked docs (docs.view s).held l [] ⟨(lib.listInit s).2, 0⟩ := by
  obtain ⟨-, hview⟩ := docs.listInit.made s l h
  have hheld : (docs.view (lib.listInit s).2).held = l ::ₘ (docs.view s).held := by
    rw [hview]
    rfl
  have hlists : (docs.view (lib.listInit s).2).lists l = [] := by
    rw [hview]
    simp [Contents.makeList]
  exact ⟨by simpa using hheld, hlists, by simp, List.nodup_nil, rfl, by simp⟩

/-- The default port and, where there is one, the certificate are set for a transport
just made. -/
theorem view_configured {p : Contents} {parent : Option Nat} (defaultPort : Int)
    (certData : Option Text) (h : docs.view s = p.make (.over parent) t) :
    docs.view (certData.elim id (lib.sslSetCertData t) (lib.setDefaultPort t defaultPort s)) =
      p.make ⟨parent, defaultPort, none, certData⟩ t := by
  have hport := docs.setDefaultPort t defaultPort s (by
    rw [h]
    exact Multiset.mem_cons_self t _)
  have hplain : docs.view (lib.setDefaultPort t defaultPort s) =
      p.make ⟨parent, defaultPort, none, none⟩ t := by
    rw [hport, h]
    simp [Contents.change, Contents.make, Transport.over]
  cases certData with
  | none => exact hplain
  | some cert =>
      have hcert := docs.sslSetCertData t cert (lib.setDefaultPort t defaultPort s) (by
        rw [hplain]
        exact Multiset.mem_cons_self t _)
      refine hcert.trans ?_
      rw [hplain]
      simp [Contents.change, Contents.make]

/-- A new transport is put in the list, or is not. -/
theorem Linked.listAdd {transport : Transport} (h : Linked docs base l made x)
    (hfresh : t ∉ (docs.view x.package).held)
    (hview : docs.view s = (docs.view x.package).make transport t) (scheme : Text) :
    ∃ listed, Linked docs base l (made ++ [⟨scheme, t, transport, listed⟩])
      ((⟨s, x.unlisted⟩ : Transports σ).listAdd lib l t scheme) := by
  have hnew : t ∉ made.map (·.handle) := by
    intro hmem
    obtain ⟨e, he, rfl⟩ := List.mem_map.mp hmem
    exact hfresh (h.made_held he)
  have hadd := docs.listAdd l t scheme s (by
      rw [hview]
      exact Multiset.mem_cons_of_mem h.list_held) (by
      rw [hview]
      exact Multiset.mem_cons_self t _)
  have hheld : (docs.view (lib.listAdd l t scheme s).2).held =
      t ::ₘ (docs.view x.package).held := by
    rw [hadd]
    split <;> rw [hview] <;> rfl
  have htransports : (docs.view (lib.listAdd l t scheme s).2).transports =
      Function.update (docs.view x.package).transports t transport := by
    rw [hadd]
    split <;> rw [hview] <;> rfl
  refine ⟨(lib.listAdd l t scheme s).1, ?_, ?_, ?_, ?_, ?_, ?_⟩
  · show (docs.view (lib.listAdd l t scheme s).2).held = _
    rw [hheld, h.held, Multiset.cons_swap, List.map_append, ← Multiset.coe_add]
    simp only [List.map_cons, List.map_nil, Multiset.coe_singleton, ← Multiset.singleton_add]
    abel
  · show (docs.view (lib.listAdd l t scheme s).2).lists l = _
    rw [hadd]
    cases hlisted : (lib.listAdd l t scheme s).1 with
    | true =>
        rw [if_pos rfl, hview]
        simp [Contents.add, Contents.make, h.lists]
    | false =>
        rw [if_neg (by simp), hview]
        simp [Contents.make, h.lists]
  · intro e he
    show (docs.view (lib.listAdd l t scheme s).2).transports e.handle = _
    rw [htransports]
    rcases List.mem_append.mp he with hmem | he
    · have hne : e.handle ≠ t := by
        rintro rfl
        exact hnew (List.mem_map_of_mem hmem)
      rw [Function.update_of_ne hne]
      exact h.transports e hmem
    · cases List.mem_singleton.mp he
      exact Function.update_self t _ _
  · rw [List.map_append]
    exact List.nodup_append'.mpr ⟨h.distinct, List.nodup_singleton t, by simpa using hnew⟩
  · show (if (lib.listAdd l t scheme s).1 then x.unlisted else t ::ₘ x.unlisted) = _
    rw [h.unlisted]
    cases (lib.listAdd l t scheme s).1 with
    | true => simp
    | false =>
        rw [List.filter_append, List.map_append, ← Multiset.coe_add]
        simp only [Bool.not_false, List.filter_cons_of_pos, List.filter_nil, List.map_cons,
          List.map_nil, Multiset.coe_singleton, ← Multiset.singleton_add]
        exact add_comm _ _
  · intro haccepts e he
    rcases List.mem_append.mp he with he | he
    · exact h.accepted haccepts e he
    · cases List.mem_singleton.mp he
      exact haccepts l t scheme s

/-- A transport just made is set up. -/
theorem Linked.setUp {init : σ → Option Nat × σ} {parent : Option Nat}
    (h : Linked docs base l made x) (scheme : Text) (defaultPort : Int) (certData : Option Text)
    (hinit : Makes docs.view init (Contents.make (.over parent)))
    (hmade : (init x.package).1 = some t) :
    ∃ listed, Linked docs base l
      (made ++ [⟨scheme, t, ⟨parent, defaultPort, none, certData⟩, listed⟩])
      ((x.run fun s => (init s).2).setUp lib l t scheme defaultPort certData) := by
  obtain ⟨hfresh, hview⟩ := hinit.made x.package t hmade
  exact h.listAdd hfresh (view_configured defaultPort certData hview) scheme

theorem Made.setPath_handle {scheme : Text} {path : Option Text} (e : Made) :
    (e.setPath scheme path).handle = e.handle ∧ (e.setPath scheme path).scheme = e.scheme ∧
      (e.setPath scheme path).listed = e.listed := by
  unfold Made.setPath
  split <;> exact ⟨rfl, rfl, rfl⟩

theorem map_setPath {β : Type} (f : Made → β) {scheme : Text} {path : Option Text}
    (hf : ∀ e : Made, f (e.setPath scheme path) = f e) (es : List Made) :
    (es.map (Made.setPath scheme path)).map f = es.map f := by
  rw [List.map_map]
  exact List.map_congr_left fun e _ => hf e

theorem filter_setPath (scheme : Text) (path : Option Text) (p : Bool → Bool)
    (es : List Made) :
    ((es.map (Made.setPath scheme path)).filter fun e => p e.listed) =
      (es.filter fun e => p e.listed).map (Made.setPath scheme path) := by
  rw [List.filter_map]
  congr 2
  funext e
  exact congrArg p e.setPath_handle.2.2

/-- No two of the transports have the same scheme. -/
theorem scheme_only {e e' : Made} (hschemes : made.map (·.scheme) = allSchemes) (he : e ∈ made)
    (he' : e' ∈ made) (h : e.scheme = e'.scheme) : e = e' := by
  apply List.inj_on_of_nodup_map (f := Made.scheme) _ he he' h
  rw [hschemes]
  decide

theorem Linked.getTransport {e : Made} (h : Linked docs base l made x)
    (hschemes : made.map (·.scheme) = allSchemes) (he : e ∈ made)
    (hscheme : e.scheme ∈ [wsScheme, wssScheme]) :
    lib.listGetTransport l e.scheme x.package = if e.listed then some e.handle else none := by
  have hsame : ∀ e' ∈ made, docs.sameScheme e'.scheme e.scheme = true → e' = e := by
    intro e' he' hmatch
    have hlisted : e'.scheme ∈ allSchemes := by
      rw [← hschemes]
      exact List.mem_map_of_mem he'
    rw [docs.sameScheme_listed _ hlisted _ hscheme] at hmatch
    exact scheme_only hschemes he' he (of_decide_eq_true hmatch)
  have hself : docs.sameScheme e.scheme e.scheme = true := by
    rw [docs.sameScheme_listed _ _ _ hscheme]
    · exact decide_eq_true rfl
    · rw [← hschemes]
      exact List.mem_map_of_mem he
  rw [docs.listGetTransport l _ _ h.list_held, h.lists, List.find?_map, Option.map_map]
  cases hfound : (made.filter (·.listed)).find?
      ((fun entry : Text × Nat => docs.sameScheme entry.1 e.scheme) ∘
        fun e => (e.scheme, e.handle)) with
  | none =>
      rw [if_neg]
      · rfl
      · intro hlisted
        exact List.find?_eq_none.mp hfound e (List.mem_filter.mpr ⟨he, hlisted⟩) hself
  | some e' =>
      obtain ⟨he', hlisted⟩ := List.mem_filter.mp (List.mem_of_find?_eq_some hfound)
      have hmatch : docs.sameScheme e'.scheme e.scheme = true := by
        simpa using List.find?_some hfound
      rw [hsame e' he' hmatch] at hlisted ⊢
      rw [if_pos hlisted]
      rfl

/-- The path is given to the one transport of its scheme, if that is in the list. -/
theorem Linked.setPath {scheme : Text} (h : Linked docs base l made x) (path : Option Text)
    (hschemes : made.map (·.scheme) = allSchemes) (hscheme : scheme ∈ [wsScheme, wssScheme]) :
    Linked docs base l (made.map (Made.setPath scheme path))
      (x.setPath lib (some l) scheme path) := by
  obtain ⟨e, he, rfl⟩ : ∃ e ∈ made, e.scheme = scheme := by
    apply List.mem_map.mp
    rw [hschemes]
    rcases List.mem_pair.mp hscheme with rfl | rfl <;> decide
  have hget : (some l).bind (fun l => lib.listGetTransport l e.scheme x.package) =
      if e.listed then some e.handle else none := h.getTransport hschemes he hscheme
  unfold Transports.setPath
  rw [hget]
  cases hlist : e.listed with
  | false =>
      have hkept : made.map (Made.setPath e.scheme path) = made := by
        refine (List.map_congr_left ?_).trans (List.map_id made)
        intro e' he'
        apply if_neg
        rintro ⟨hlist', hother⟩
        rw [scheme_only hschemes he' he hother, hlist] at hlist'
        cases hlist'
      rw [hkept]
      exact h
  | true =>
      have hset := docs.wsSetPath e.handle path x.package (h.made_held he)
      have hhandles : (made.map (Made.setPath e.scheme path)).map (·.handle) =
          made.map (·.handle) := map_setPath _ (fun e' => e'.setPath_handle.1) made
      refine ⟨?_, ?_, ?_, ?_, ?_, ?_⟩
      · show (docs.view (lib.wsSetPath e.handle path x.package)).held = _
        rw [hhandles, hset]
        exact h.held
      · show (docs.view (lib.wsSetPath e.handle path x.package)).lists l = _
        have hfilter := filter_setPath e.scheme path id made
        rw [hset]
        refine h.lists.trans ((congrArg _ hfilter).trans (map_setPath _ ?_ _)).symm
        exact fun e' => Prod.ext e'.setPath_handle.2.1 e'.setPath_handle.1
      · intro e₁ he₁
        obtain ⟨e', he', rfl⟩ := List.mem_map.mp he₁
        have hview : (docs.view (lib.wsSetPath e.handle path x.package)).transports e'.handle =
            Function.update (docs.view x.package).transports e.handle
              { (docs.view x.package).transports e.handle with path := path } e'.handle :=
          congrArg (fun p => p.transports e'.handle) hset
        rw [e'.setPath_handle.1]
        refine hview.trans ?_
        by_cases hhandle : e'.handle = e.handle
        · obtain rfl : e' = e := List.inj_on_of_nodup_map h.distinct he' he hhandle
          rw [Function.update_self, h.transports e' he', Made.setPath, if_pos ⟨hlist, rfl⟩]
        · rw [Function.update_of_ne hhandle, h.transports e' he', Made.setPath, if_neg]
          rintro ⟨-, hother⟩
          rw [scheme_only hschemes he' he hother] at hhandle
          exact hhandle rfl
      · rw [hhandles]
        exact h.distinct
      · rw [filter_setPath _ _ (!·), map_setPath _ fun e' => e'.setPath_handle.1]
        exact h.unlisted
      · intro haccepts e₁ he₁
        obtain ⟨e', he', rfl⟩ := List.mem_map.mp he₁
        rw [e'.setPath_handle.2.2]
        exact h.accepted haccepts e' he'

/-- Releasing the list leaves what could not be put there. -/
theorem Linked.listDestroy (h : Linked docs base l made x) :
    (docs.view (x.listDestroy lib (some l)).package).held = x.unlisted + base := by
  have hsplit : (made.map (·.handle) : Multiset Nat) =
      ((made.filter (·.listed)).map (·.handle) : List Nat) +
        ((made.filter (!·.listed)).map (·.handle) : List Nat) := by
    rw [Multiset.coe_add, ← List.map_append]
    exact (Multiset.coe_eq_coe.mpr ((List.filter_append_perm (·.listed) made).map _)).symm
  have hdestroyed := docs.listDestroy l x.package h.list_held
  refine hdestroyed.trans ?_
  rw [Contents.afterDestroy, h.held, h.lists, hsplit, h.unlisted, List.map_map]
  have hcons : ∀ (b c : Multiset Nat), l ::ₘ (b + c + base) = (l ::ₘ b) + (c + base) := by
    intro b c
    rw [Multiset.cons_add, add_assoc]
  rw [hcons]
  exact add_tsub_cancel_left _ _

theorem Linked.unlisted_none (h : Linked docs base l made x) (haccepts : lib.Accepts) :
    x.unlisted = 0 := by
  rw [h.unlisted, List.filter_eq_nil_iff.mpr]
  · rfl
  · intro e he
    simp [h.accepted haccepts e he]

/-- What the package holds is `base` and what the client has made, with the list that the
client knows. -/
def Accounted (docs : Documented lib) (base : Multiset Nat) (x : Transports σ) :
    Option Nat → Prop
  | none => (docs.view x.package).held = base ∧ x.unlisted = 0
  | some l => ∃ made, Linked docs base l made x

variable {list : Option Nat} {x' : Transports σ}

/-- A handle that is refused changes nothing. -/
theorem Accounted.same (h : Accounted docs base x list)
    (hview : docs.view x'.package = docs.view x.package) (hunlisted : x'.unlisted = x.unlisted) :
    Accounted docs base x' list := by
  cases list with
  | none => exact ⟨by rw [hview, h.1], hunlisted.trans h.2⟩
  | some l =>
      obtain ⟨made, hlinked⟩ := h
      refine ⟨made, ⟨?_, ?_, ?_, hlinked.distinct, ?_, hlinked.accepted⟩⟩
      · rw [hview, hlinked.held]
      · rw [hview, hlinked.lists]
      · rw [hview]
        exact hlinked.transports
      · rw [hunlisted, hlinked.unlisted]

theorem Accounted.listDestroy (h : Accounted docs base x list) :
    (docs.view (x.listDestroy lib list).package).held = x.unlisted + base := by
  cases list with
  | none =>
      obtain ⟨hheld, hnone⟩ := h
      rw [hnone, zero_add]
      exact hheld
  | some l =>
      obtain ⟨made, hlinked⟩ := h
      exact hlinked.listDestroy

theorem Accounted.unlisted_none (h : Accounted docs base x list) (haccepts : lib.Accepts) :
    x.unlisted = 0 := by
  cases list with
  | none => exact h.2
  | some l =>
      obtain ⟨made, hlinked⟩ := h
      exact hlinked.unlisted_none haccepts

end Linked

section Plain

/-- The memory of a plain package, which numbers its handles. -/
structure Memory where
  contents : Contents
  next : Nat
  fresh : ∀ t ∈ contents.held, t < next

def Memory.empty : Memory where
  contents := ⟨0, fun _ => [], fun _ => .over none⟩
  next := 0
  fresh := by simp

theorem fresh_cons {held : Multiset Nat} {next : Nat} (h : ∀ t ∈ held, t < next) :
    ∀ t ∈ next ::ₘ held, t < next + 1 := by
  intro t ht
  rcases Multiset.mem_cons.mp ht with rfl | ht
  · exact Nat.lt_succ_self t
  · exact Nat.lt_succ_of_lt (h t ht)

def Memory.makeList (m : Memory) : Option Nat × Memory :=
  (some m.next, ⟨m.contents.makeList m.next, m.next + 1, fresh_cons m.fresh⟩)

def Memory.make (transport : Transport) (m : Memory) : Option Nat × Memory :=
  (some m.next, ⟨m.contents.make transport m.next, m.next + 1, fresh_cons m.fresh⟩)

def Memory.change (t : Nat) (f : Transport → Transport) (m : Memory) : Memory :=
  { m with contents := m.contents.change t f }

def Memory.add (l t : Nat) (scheme : Text) (m : Memory) : Memory :=
  { m with contents := m.contents.add l t scheme }

end Plain

end Esp32Iot.TransportPackage
