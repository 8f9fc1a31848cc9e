import Esp32Iot.ClientBlocks
import Esp32Iot.ClientSettings

namespace Esp32Iot.ClientConfiguring

open Esp32Iot.BlockLedger
open Esp32Iot.EarlyExit
open Esp32Iot.ClientResources
open Esp32Iot.ClientBlocks
open Esp32Iot.ClientSettings
open Esp32Iot.TransportPackage

variable {σ : Type}

@[simp] theorem pointer_none : CString.pointer none = none := rfl

theorem pointer_map (p : Option Nat) (text : Text) :
    CString.pointer (p.map fun a => ⟨a, text⟩) = p := by
  cases p <;> rfl

theorem settingsOf_setString (cfg : ConfigStorage) (x : Transports σ) (f : StringField)
    (s : Option CString) :
    settingsOf (cfg.setString f s) x = (settingsOf cfg x).setString f (s.map (·.text)) := by
  simp only [settingsOf, Settings.setString, ConfigStorage.setString]
  congr 1
  funext f'
  exact Function.apply_update (fun _ => Option.map CString.text) cfg.strings f s f'

/-- `c` is configured to do `v` and is like `k` otherwise. -/
def Described (k : Client) (v : Settings σ) (c : Client) : Prop :=
  ∃ cfg, c = { k with config := some cfg } ∧ settingsOf cfg v.transports = v

variable (base : Multiset Nat) (I : Option Nat → Transports σ → Prop)

/-- `n` blocks belong to no one any more; `I` is kept of the transports. -/
def Configuring (k : Client) (n : Nat) (v : Settings σ) (m : Machine σ) : Prop :=
  ∃ leak : Multiset Nat, (leak.card = n ∧ I k.transportList v.transports) ∧
    Holding v.transports (leak + base) clientBlocks (Described k v) m

/-- The pointer in field `f` may be dangling. -/
def Loose (k : Client) (n : Nat) (v : Settings σ) (f : StringField) (m : Machine σ) : Prop :=
  ∃ leak : Multiset Nat, (leak.card = n ∧ I k.transportList v.transports) ∧
    Holding v.transports (leak + base) (looseBlocks f) (Described k v) m

/-- Why a construction can fail. -/
def Cause (env : Env) (uri : Option Text) : Prop :=
  (∃ i, env.allows i = false) ∨ ∃ text, uri = some text ∧ env.httpParserParseUrl text = none

/-- The construction is left with at most `n` blocks that belong to no one. -/
structure Abandoned (env : Env) (uri : Option Text) (n : Nat) (e : Exit) (m : Machine σ) :
    Prop where
  exit : e ≠ .nullDereference
  cause : Cause env uri
  accounts : ∃ leak : Multiset Nat, leak.card ≤ n ∧
    m.ledger.Accounts (clientBlocks m.client + (leak + base))
  lock : m.client.lock.isSome
  transports : I m.client.transportList m.transports
  nullPassed : m.nullPassed = false

section Specs

variable {env : Env} {lib : EspTransport σ} {uri : Option Text} {base : Multiset Nat}
  {I : Option Nat → Transports σ → Prop} {k : Client} {n n' : Nat} {v : Settings σ}
  {f : StringField} {text : Text} {E : Exit → Machine σ → Prop}

theorem Described.config {c : Client} (h : Described k v c) : c.config.isSome := by
  obtain ⟨cfg, rfl, _⟩ := h
  rfl

theorem Described.setString {c : Client} {cfg : ConfigStorage} (h : Described k v c)
    (hcfg : c.config = some cfg) (s : Option CString) :
    Described k (v.setString f (s.map (·.text))) (c.setConfig (some (cfg.setString f s))) := by
  obtain ⟨_, rfl, hv⟩ := h
  cases hcfg
  refine ⟨cfg.setString f s, rfl, (settingsOf_setString cfg v.transports f s).trans ?_⟩
  rw [hv]

theorem Described.strings_none {c : Client} {cfg : ConfigStorage} (h : Described k v c)
    (hcfg : c.config = some cfg) (hnone : v.strings f = none) : cfg.strings f = none := by
  obtain ⟨_, rfl, hv⟩ := h
  cases hcfg
  rw [← hv] at hnone
  simpa [settingsOf] using hnone

theorem Configuring.abandoned {m : Machine σ} {e : Exit} (h : Configuring base I k n v m)
    (hlock : k.lock.isSome) (hn : n ≤ n') (hexit : e ≠ .nullDereference)
    (hcause : Cause env uri) : Abandoned base I env uri n' e m := by
  obtain ⟨leak, ⟨hcard, hkept⟩, ⟨cfg, hclient, _⟩, htransports, haccounts, hnull⟩ := h
  constructor
  · exact hexit
  · exact hcause
  · exact ⟨leak, by omega, haccounts⟩
  · rw [hclient]
    exact hlock
  · rw [hclient, htransports]
    exact hkept
  · exact hnull

/-- The old string of a field that is assigned to is not released. -/
theorem Configuring.loose {m : Machine σ} (h : Configuring base I k n v m) (f : StringField) :
    Loose base I k (n + if (v.strings f).isSome then 1 else 0) v f m := by
  obtain ⟨leak, ⟨hcard, hkept⟩, hshape, htransports, haccounts, hnull⟩ := h
  obtain ⟨cfg, hclient, hv⟩ := id hshape
  refine ⟨owns (CString.pointer (cfg.strings f)) + leak, ⟨?_, hkept⟩, hshape, htransports, ?_,
    hnull⟩
  · rw [← hv]
    cases hs : cfg.strings f with
    | none => simp [CString.pointer, settingsOf, hs, hcard]
    | some s => simp [CString.pointer, settingsOf, hs, hcard, add_comm]
  · have hconfig : m.client.config = some cfg := by rw [hclient]
    rw [clientBlocks_eq_loose hconfig f, add_comm (owns _), add_assoc, ← add_assoc (owns _)]
      at haccounts
    exact haccounts

theorem Configuring.spec {α : Type} {x : Prog σ α} {Q : α → Machine σ → Prop}
    (h : ∀ leak : Multiset Nat, leak.card = n ∧ I k.transportList v.transports →
      Spec (Holding v.transports (leak + base) clientBlocks (Described k v)) x Q E) :
    Spec (Configuring base I k n v) x Q E := by
  apply Spec.choose
  intro leak
  apply Spec.assume
  exact h leak

theorem strdup_loose (hlock : k.lock.isSome) (hn : n ≤ n') :
    Spec (Loose base I k n v f) (strdup env f text)
      (fun _ => Configuring base I k n (v.setString f (some text)))
      (Abandoned base I env uri n') := by
  apply Spec.choose
  intro leak
  apply Spec.assume
  intro hcard
  apply (malloc_spec env).bind
  intro p
  apply Spec.assume
  intro hcause
  have hwrite : Spec (Holding v.transports (owns p + (leak + base)) (looseBlocks f) (Described k v))
      (writeConfig (·.setString f (p.map fun a => ⟨a, text⟩)))
      (fun _ => Holding v.transports (leak + base) clientBlocks
        (Described k (v.setString f (p.map fun _ => text))))
      (Abandoned base I env uri n') := by
    apply writeConfig_spec
    · exact fun _ => Described.config
    · intro c cfg hc hcfg
      have hset := hc.setString (f := f) hcfg (p.map fun a => ⟨a, text⟩)
      rwa [Option.map_map] at hset
    · intro c cfg hc hcfg
      rw [clientBlocks_setString hcfg, pointer_map]
      abel
  apply hwrite.bind
  intro _
  apply Spec.check
  · intro hsome m h
    obtain ⟨a, rfl⟩ := Option.isSome_iff_exists.mp hsome
    exact ⟨leak, hcard, h⟩
  · intro hnone m h
    have hp : p = none := by simpa using hnone
    have hconfiguring : Configuring base I k n (v.setString f (p.map fun _ => text)) m :=
      ⟨leak, hcard, h⟩
    exact hconfiguring.abandoned hlock hn (by simp) (.inl (hcause hp))

theorem replaceString_spec (hlock : k.lock.isSome) (hn : n ≤ n') :
    Spec (Configuring base I k n v) (replaceString env f text)
      (fun _ => Configuring base I k n (v.setString f (some text)))
      (Abandoned base I env uri n') := by
  apply Configuring.spec
  intro leak hcard
  apply (readConfig_spec fun _ => Described.config).bind
  intro cfg
  have hfree : Spec
      (Holding v.transports (leak + base) clientBlocks fun c => Described k v c ∧ c.config = some cfg)
      (free (CString.pointer (cfg.strings f)))
      (fun _ => Holding v.transports (leak + base) (looseBlocks f) (Described k v))
      (Abandoned base I env uri n') := by
    apply free_spec
    · exact fun c hc => hc.1
    · rintro c ⟨_, hcfg⟩
      rw [clientBlocks_eq_loose hcfg f, add_assoc]
  apply hfree.bind
  intro _
  apply (strdup_loose hlock hn).before
  exact fun m h => ⟨leak, hcard, h⟩

theorem readSettings_spec :
    Spec (Configuring base I k n v) readConfig
      (fun cfg m => (∀ f, (cfg.strings f).map (·.text) = v.strings f) ∧
        Configuring base I k n v m) E := by
  apply Configuring.spec
  intro leak hcard
  apply (readConfig_spec fun _ => Described.config).after
  rintro cfg m ⟨⟨hc, hcfg⟩, htransports, haccounts, hnull⟩
  refine ⟨?_, leak, hcard, hc, htransports, haccounts, hnull⟩
  obtain ⟨cfg', hclient, hv⟩ := hc
  rw [hclient] at hcfg
  cases hcfg
  rw [← hv]
  exact fun f => rfl

theorem asprintf_spec {exit : Exit} (hlock : k.lock.isSome) (hn : n ≤ n')
    (hexit : exit ≠ .nullDereference) (hnone : v.strings f = none) :
    Spec (Configuring base I k n v) (asprintf env f text exit)
      (fun _ => Configuring base I k n (v.setString f (some text)))
      (Abandoned base I env uri n') := by
  apply Configuring.spec
  intro leak hcard
  apply (malloc_spec env).bind
  intro p
  apply Spec.assume
  intro hcause
  have hwrite : Spec (Holding v.transports (owns p + (leak + base)) clientBlocks (Described k v))
      (writeConfig fun cfg => cfg.setString f
        ((p.map fun a => ⟨a, text⟩).or (env.asprintfFailed (cfg.strings f))))
      (fun _ => Holding v.transports (leak + base) clientBlocks
        (Described k (v.setString f (p.map fun _ => text))))
      (Abandoned base I env uri n') := by
    have hor : ∀ c cfg, Described k v c → c.config = some cfg →
        (p.map fun a => (⟨a, text⟩ : CString)).or (env.asprintfFailed (cfg.strings f)) =
          p.map fun a => ⟨a, text⟩ := by
      intro c cfg hc hcfg
      rw [hc.strings_none hcfg hnone, env.asprintfFailed_none, Option.or_none]
    apply writeConfig_spec
    · exact fun _ => Described.config
    · intro c cfg hc hcfg
      rw [hor c cfg hc hcfg]
      have hset := hc.setString (f := f) hcfg (p.map fun a => ⟨a, text⟩)
      rwa [Option.map_map] at hset
    · intro c cfg hc hcfg
      rw [hor c cfg hc hcfg, clientBlocks_setString hcfg, pointer_map,
        clientBlocks_eq_loose hcfg f, hc.strings_none hcfg hnone, pointer_none, owns_none]
      abel
  apply hwrite.bind
  intro _
  apply Spec.bind (Q := fun (cfg : ConfigStorage) m => (cfg.strings f).isSome = p.isSome ∧
    Configuring base I k n (v.setString f (p.map fun _ => text)) m)
  · apply (readSettings_spec (v := v.setString f (p.map fun _ => text))).weaken
    · exact fun m h => ⟨leak, hcard, h⟩
    · rintro cfg m ⟨hstrings, h⟩
      refine ⟨?_, h⟩
      have hstring := congrArg Option.isSome (hstrings f)
      simpa [Settings.setString] using hstring
    · exact fun _ _ h => h
  · intro cfg
    apply Spec.assume
    intro hp
    rw [hp]
    apply Spec.check
    · intro hsome m h
      obtain ⟨a, rfl⟩ := Option.isSome_iff_exists.mp hsome
      exact h
    · intro hnone m h
      exact h.abandoned hlock hn hexit (.inl (hcause (by simpa using hnone)))

theorem replaceFormatted_spec (hlock : k.lock.isSome) (hn : n ≤ n')
    (hnone : v.strings f = none) :
    Spec (Configuring base I k n v) (replaceFormatted env f text)
      (fun _ => Configuring base I k n (v.setString f (some text)))
      (Abandoned base I env uri n') := by
  apply Configuring.spec
  intro leak hcard
  apply (readConfig_spec fun _ => Described.config).bind
  intro cfg
  have hfree : Spec
      (Holding v.transports (leak + base) clientBlocks fun c => Described k v c ∧ c.config = some cfg)
      (free (CString.pointer (cfg.strings f)))
      (fun _ => Holding v.transports (leak + base) clientBlocks (Described k v))
      (Abandoned base I env uri n') := by
    apply free_spec
    · exact fun c hc => hc.1
    · rintro c ⟨hc, hcfg⟩
      rw [hc.strings_none hcfg hnone, pointer_none, owns_none, zero_add]
  apply hfree.bind
  intro _
  apply (asprintf_spec hlock hn (by simp) hnone).before
  exact fun m h => ⟨leak, hcard, h⟩

theorem write_settings {g : ConfigStorage → ConfigStorage} {g' : Settings σ → Settings σ}
    (hsettings : ∀ cfg x, settingsOf (g cfg) x = g' (settingsOf cfg x))
    (htransports : (g' v).transports = v.transports)
    (hblocks : ∀ cfg, configBlocks (g cfg) = configBlocks cfg) :
    Spec (Configuring base I k n v) (writeConfig g)
      (fun _ => Configuring base I k n (g' v)) E := by
  apply Configuring.spec
  intro leak hcard
  have hwrite : Spec (Holding v.transports (leak + base) clientBlocks (Described k v))
      (writeConfig g)
      (fun _ => Holding v.transports (leak + base) clientBlocks (Described k (g' v))) E := by
    apply writeConfig_spec
    · exact fun _ => Described.config
    · rintro c cfg ⟨_, rfl, hv⟩ hcfg
      cases hcfg
      refine ⟨g cfg, rfl, ?_⟩
      rw [htransports, hsettings, hv]
    · rintro c cfg - hcfg
      simp only [clientBlocks, Client.setConfig, hcfg, Option.elim_some, hblocks]
  rw [← htransports] at hcard hwrite
  apply (hwrite.before _).after
  · exact fun _ m h => ⟨leak, hcard, h⟩
  · intro m h
    rwa [htransports]

theorem setPort_spec {port : Int} :
    Spec (Configuring base I k n v) (writeConfig fun cfg => { cfg with port := port })
      (fun _ => Configuring base I k n (v.setPort port)) E := by
  apply write_settings
  · exact fun _ _ => rfl
  · rfl
  · exact fun _ => rfl

theorem onlyIf_spec {c : Prop} [Decidable c] {x : Prog σ Unit} {g : Settings σ → Settings σ}
    (hx : Spec (Configuring base I k n v) x (fun _ => Configuring base I k n (g v)) E) :
    Spec (Configuring base I k n v) (onlyIf c x)
      (fun _ => Configuring base I k n (v.onlyIf c g)) E := by
  apply Spec.onlyIf
  · intro hc
    rwa [Settings.onlyIf, if_pos hc]
  · intro hc m h
    rwa [Settings.onlyIf, if_neg hc]

/-- `I` is kept when the path of a websocket transport is set. -/
def PathKept (lib : EspTransport σ) (I : Option Nat → Transports σ → Prop) : Prop :=
  ∀ l x path, ∀ scheme ∈ [wsScheme, wssScheme], I l x → I l (x.setPath lib l scheme path)

theorem setTransportPath_spec {scheme : Text} {path : Option Text} (hI : PathKept lib I)
    (hscheme : scheme ∈ [wsScheme, wssScheme]) :
    Spec (Configuring base I k n v) (setTransportPath lib scheme path)
      (fun _ => Configuring base I k n (v.setTransportPath lib k.transportList scheme path))
      E := by
  apply Configuring.spec
  rintro leak ⟨hcard, hkept⟩
  apply Spec.modify
  rintro m ⟨⟨cfg, hclient, hv⟩, htransports, haccounts, hnull⟩
  refine ⟨leak, ⟨hcard, hI _ _ path _ hscheme hkept⟩, ⟨cfg, hclient, ?_⟩, ?_, haccounts, hnull⟩
  · rw [← hv]
    rfl
  · show m.transports.setPath lib m.client.transportList scheme path = _
    rw [hclient, htransports]
    rfl

theorem setUriPath_spec (hI : PathKept lib I) (hlock : k.lock.isSome) (hn : n ≤ n')
    (hnone : v.strings .path = none) :
    Spec (Configuring base I k n v) (setUriPath env lib text)
      (fun _ => Configuring base I k n (v.setPath lib k.transportList text))
      (Abandoned base I env uri n') := by
  apply (replaceFormatted_spec hlock hn hnone).bind
  intro _
  apply readSettings_spec.bind
  intro cfg
  apply Spec.assume
  intro hstrings
  have hpath : (cfg.strings .path).map (·.text) = some text := by
    rw [hstrings]
    simp [Settings.setString]
  rw [hpath]
  apply (setTransportPath_spec hI (by decide)).bind
  intro _
  exact setTransportPath_spec hI (by decide)

theorem mallocSettings_spec :
    Spec (Configuring base I k n v) (malloc env)
      (fun p m => (p = none → ∃ i, env.allows i = false) ∧
        Configuring (owns p + base) I k n v m) E := by
  apply Configuring.spec
  intro leak hcard
  apply (malloc_spec env).after
  rintro p m ⟨hcause, h⟩
  rw [add_left_comm] at h
  exact ⟨hcause, leak, hcard, h⟩

theorem freeSettings_spec {p : Option Nat} :
    Spec (Configuring (owns p + base) I k n v) (free p)
      (fun _ => Configuring base I k n v) E := by
  apply Configuring.spec
  intro leak hcard
  have hfree : Spec (Holding v.transports (leak + (owns p + base)) clientBlocks (Described k v)) (free p)
      (fun _ => Holding v.transports (leak + base) clientBlocks (Described k v)) E := by
    apply free_spec
    · exact fun _ hc => hc
    · intro c _
      abel
  apply hfree.after
  exact fun _ m h => ⟨leak, hcard, h⟩

theorem Abandoned.leak {p : Option Nat} {e : Exit} {m : Machine σ}
    (h : Abandoned (owns p + base) I env uri n e m) : Abandoned base I env uri (n + 1) e m := by
  obtain ⟨leak, hcard, haccounts⟩ := h.accounts
  refine { h with accounts := ⟨leak + owns p, ?_, ?_⟩ }
  · have howns : (owns p).card ≤ 1 := by
      cases p <;> simp
    rw [Multiset.card_add]
    omega
  · rwa [add_assoc leak]

theorem Abandoned.mono {e : Exit} {m : Machine σ} (h : Abandoned base I env uri n e m)
    (hn : n ≤ n') : Abandoned base I env uri n' e m := by
  obtain ⟨leak, hcard, haccounts⟩ := h.accounts
  exact { h with accounts := ⟨leak, le_trans hcard hn, haccounts⟩ }

/-- The copy of the user information is not released where its parts cannot be stored. -/
theorem setUriUserinfo_spec (hlock : k.lock.isSome) :
    Spec (Configuring base I k n v) (setUriUserinfo env text)
      (fun _ => Configuring base I k n (v.setUserinfo text))
      (Abandoned base I env uri (n + 1)) := by
  apply mallocSettings_spec.bind
  intro p
  apply Spec.assume
  intro hcause
  apply Spec.bind (Q := fun _ => Configuring (owns p + base) I k n v)
  · apply Spec.check
    · exact fun _ _ h => h
    · intro hnone m h
      have hp : p = none := by simpa using hnone
      apply Abandoned.leak
      exact h.abandoned hlock le_rfl (by simp) (.inl (hcause hp))
  · intro _
    apply ((onlyIf_spec (replaceString_spec hlock le_rfl)).leaving fun _ _ h => h.leak).bind
    intro _
    apply ((replaceString_spec hlock le_rfl).leaving fun _ _ h => h.leak).bind
    intro _
    exact freeSettings_spec

theorem onlyIf_strings {c : Prop} [Decidable c] {g : Settings σ → Settings σ}
    (hnone : v.strings f = none) (hg : (g v).strings f = v.strings f) :
    (v.onlyIf c g).strings f = none := by
  unfold Settings.onlyIf
  split
  · rw [hg, hnone]
  · exact hnone

theorem setString_of_ne {f' : StringField} {t : Option Text} (hne : f ≠ f') :
    (v.setString f' t).strings f = v.strings f := by
  simp [Settings.setString, hne]

/-- How many blocks the user information of a URI occupies. -/
def userinfoBlocks (env : Env) (text : Text) : Nat :=
  if (env.httpParserParseUrl text).any (·.userinfo.len ≠ 0) then 1 else 0

theorem setUri_spec (hI : PathKept lib I) (hlock : k.lock.isSome) (hscheme : v.strings .scheme = none)
    (hhost : v.strings .host = none) (hpath : v.strings .path = none) :
    Spec (Configuring base I k n v) (espWebsocketClientSetUri env lib text)
      (fun _ m => ∃ puri, env.httpParserParseUrl text = some puri ∧
        Configuring base I k n (v.setUri lib k.transportList puri text) m)
      (Abandoned base I env (some text) (n + userinfoBlocks env text)) := by
  unfold espWebsocketClientSetUri
  cases hparse : env.httpParserParseUrl text with
  | none =>
      apply Spec.throw
      intro m h
      apply h.abandoned hlock (Nat.le_add_right _ _) (by simp)
      exact .inr ⟨text, rfl, hparse⟩
  | some puri =>
      have hn : n ≤ n + userinfoBlocks env text := Nat.le_add_right _ _
      apply (onlyIf_spec (replaceFormatted_spec hlock hn hscheme)).bind
      intro _
      have hhost₁ : (v.onlyIf (puri.schema.len ≠ 0)
          (.setString .scheme (puri.schema.text text))).strings .host = none :=
        onlyIf_strings hhost (setString_of_ne (by decide))
      apply (onlyIf_spec (replaceFormatted_spec hlock hn hhost₁)).bind
      intro _
      have hpath₂ : ((v.onlyIf (puri.schema.len ≠ 0)
          (.setString .scheme (puri.schema.text text))).onlyIf (puri.host.len ≠ 0)
          (.setString .host (puri.host.text text))).strings .path = none :=
        onlyIf_strings (onlyIf_strings hpath (setString_of_ne (by decide)))
          (setString_of_ne (by decide))
      apply (onlyIf_spec (setUriPath_spec hI hlock hn hpath₂)).bind
      intro _
      apply (onlyIf_spec setPort_spec).bind
      intro _
      apply Spec.onlyIf
      · intro hlen
        have huser : userinfoBlocks env text = 1 := by
          simp [userinfoBlocks, hparse, hlen]
        rw [huser]
        apply (setUriUserinfo_spec hlock).after
        intro _ m h
        refine ⟨puri, rfl, ?_⟩
        rwa [Settings.setUri, Settings.onlyIf, if_pos hlen]
      · intro hlen m h
        refine ⟨puri, rfl, ?_⟩
        rwa [Settings.setUri, Settings.onlyIf, if_neg hlen]

theorem ifGiven_spec {assign : Text → Prog σ Unit} {given : Option Text} {n₁ : Nat}
    (hassign : ∀ text, given = some text → Spec (Configuring base I k n v) (assign text)
      (fun _ => Configuring base I k n₁ (v.setString f (some text))) E)
    (hskip : given = none → n₁ = n) :
    Spec (Configuring base I k n v) (ifGiven assign given)
      (fun _ => Configuring base I k n₁ (v.setGiven f given)) E := by
  cases given with
  | none =>
      apply Spec.pure
      intro m h
      rw [hskip rfl]
      exact h
  | some text => exact hassign text rfl

theorem replaceGiven_spec {given : Option Text} (hlock : k.lock.isSome) (hn : n ≤ n') :
    Spec (Configuring base I k n v) (ifGiven (replaceString env f) given)
      (fun _ => Configuring base I k n (v.setGiven f given)) (Abandoned base I env uri n') := by
  apply ifGiven_spec
  · intro text _
    exact replaceString_spec hlock hn
  · exact fun _ => rfl

/-- How many blocks are lost because the old host is not released. -/
def hostBlocks (config : ClientConfig) (v : Settings σ) : Nat :=
  if config.host.isSome ∧ (v.strings .host).isSome then 1 else 0

theorem setConfig_spec {config : ClientConfig} (hlock : k.lock.isSome)
    (hn : n + hostBlocks config v ≤ n') :
    Spec (Configuring base I k n v) (espWebsocketClientSetConfig env config)
      (fun _ => Configuring base I k (n + hostBlocks config v) (v.setConfig config))
      (Abandoned base I env uri n') := by
  have htask : Spec (Configuring base I k n v) (writeConfig fun cfg => { cfg with
      taskPrio := if config.taskPrio ≤ 0 then websocketTaskPriority else config.taskPrio
      taskStack := if config.taskStack = 0 then websocketTaskStack else config.taskStack })
      (fun _ => Configuring base I k n (v.setTask config)) (Abandoned base I env uri n') := by
    apply write_settings
    · exact fun _ _ => rfl
    · rfl
    · exact fun _ => rfl
  apply htask.bind
  intro _
  have hhost : Spec (Configuring base I k n (v.setTask config))
      (ifGiven (strdup env .host) config.host)
      (fun _ => Configuring base I k (n + hostBlocks config v)
        ((v.setTask config).setGiven .host config.host)) (Abandoned base I env uri n') := by
    apply ifGiven_spec
    · intro text hgiven
      have hblocks : hostBlocks config v = if (v.strings .host).isSome then 1 else 0 := by
        simp [hostBlocks, hgiven]
      rw [hblocks] at hn ⊢
      apply (strdup_loose hlock hn).before
      exact fun m h => h.loose .host
    · intro hgiven
      simp [hostBlocks, hgiven]
  apply hhost.bind
  intro _
  apply (onlyIf_spec setPort_spec).bind
  intro _
  apply (replaceGiven_spec hlock hn).bind
  intro _
  apply (replaceGiven_spec hlock hn).bind
  intro _
  apply (replaceGiven_spec hlock hn).bind
  intro _
  apply (replaceGiven_spec hlock hn).bind
  intro _
  apply write_settings
  · exact fun _ _ => rfl
  · rfl
  · exact fun _ => rfl

end Specs

end Esp32Iot.ClientConfiguring
