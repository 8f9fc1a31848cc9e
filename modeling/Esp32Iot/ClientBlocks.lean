import Esp32Iot.ClientResources

namespace Esp32Iot.ClientBlocks

open Esp32Iot.BlockLedger
open Esp32Iot.EarlyExit
open Esp32Iot.ClientResources
open Esp32Iot.TransportPackage

section Owned

def stringFields : List StringField := [.uri, .host, .path, .scheme, .username, .password]

def configBlocks (cfg : ConfigStorage) : Multiset Nat :=
  {cfg.block} + (stringFields.map fun f => owns (CString.pointer (cfg.strings f))).sum

/-- The transports belong to the package, which has an account of its own. -/
def clientBlocks (c : Client) : Multiset Nat :=
  {c.block} + {c.eventHandle} + owns c.lock + owns c.rxBuffer + owns c.txBuffer +
    owns c.statusBits + c.config.elim 0 configBlocks

/-- The client's blocks, without the string in field `f`. -/
def looseBlocks (f : StringField) (c : Client) : Multiset Nat :=
  clientBlocks (c.setConfig (c.config.map (·.setString f none)))

theorem configBlocks_setString (cfg : ConfigStorage) (f : StringField) (s : Option CString) :
    configBlocks (cfg.setString f s) =
      owns (CString.pointer s) + configBlocks (cfg.setString f none) := by
  cases f <;>
    simp [configBlocks, stringFields, ConfigStorage.setString, CString.pointer] <;> abel

theorem setString_strings (cfg : ConfigStorage) (f : StringField) :
    cfg.setString f (cfg.strings f) = cfg := by
  simp [ConfigStorage.setString]

theorem clientBlocks_setString {c : Client} {cfg : ConfigStorage} (h : c.config = some cfg)
    (f : StringField) (s : Option CString) :
    clientBlocks (c.setConfig (some (cfg.setString f s))) =
      owns (CString.pointer s) + looseBlocks f c := by
  simp only [looseBlocks, clientBlocks, Client.setConfig, h, Option.map_some, Option.elim_some]
  rw [configBlocks_setString]
  abel

/-- Releasing the string in `f` leaves the client with the other blocks. -/
theorem clientBlocks_eq_loose {c : Client} {cfg : ConfigStorage} (h : c.config = some cfg)
    (f : StringField) :
    clientBlocks c = owns (CString.pointer (cfg.strings f)) + looseBlocks f c := by
  rw [← clientBlocks_setString h, setString_strings, ← h]
  rfl

/-- `esp_websocket_client_destroy` releases every block of the client. -/
theorem pointers_blocks (c : Client) : (c.pointers.map owns).sum = clientBlocks c := by
  have hconfig : ((destroyConfig c.config).map owns).sum = c.config.elim 0 configBlocks := by
    cases c.config with
    | none => rfl
    | some cfg =>
        simp only [destroyConfig, List.map_append, List.map_cons, List.map_nil,
          List.sum_append, List.sum_cons, List.sum_nil, Option.elim_some, configBlocks,
          stringFields, owns_some]
        abel
  simp only [Client.pointers, List.map_append, List.sum_append, hconfig, clientBlocks,
    List.map_cons, List.map_nil, List.sum_cons, List.sum_nil, owns_some]
  abel

end Owned

variable {σ : Type}

/-- The client satisfies `C` and its transports are `x`. The blocks in use are the `owned`
ones and `rest`. -/
structure Holding (x : Transports σ) (rest : Multiset Nat) (owned : Client → Multiset Nat)
    (C : Client → Prop) (m : Machine σ) : Prop where
  shape : C m.client
  transports : m.transports = x
  accounts : m.ledger.Accounts (owned m.client + rest)
  nullPassed : m.nullPassed = false

section Primitives

variable {rest rest' : Multiset Nat} {owned owned' : Client → Multiset Nat}
  {C C' : Client → Prop} {E : Exit → Machine σ → Prop} {x : Transports σ}

theorem malloc_spec (env : Env) :
    Spec (Holding x rest owned C) (malloc env)
      (fun p m => (p = none → ∃ i, env.allows i = false) ∧
        Holding x (owns p + rest) owned C m) E := by
  apply Spec.modifyGet
  intro m h
  constructor
  · intro hnone
    refine ⟨m.ledger.requests, ?_⟩
    simpa [Ledger.malloc_fst] using hnone
  · constructor
    · exact h.shape
    · exact h.transports
    · have haccounts := Ledger.malloc_accounts env.allows h.accounts
      rwa [add_left_comm] at haccounts
    · exact h.nullPassed

theorem free_spec {p : Option Nat} (hshape : ∀ c, C c → C' c)
    (hrelease : ∀ c, C c → owned c + rest = owns p + (owned' c + rest')) :
    Spec (Holding x rest owned C) (free p) (fun _ => Holding x rest' owned' C') E := by
  apply Spec.modify
  intro m h
  constructor
  · exact hshape m.client h.shape
  · exact h.transports
  · apply Ledger.free_accounts
    rw [← hrelease m.client h.shape]
    exact h.accounts
  · exact h.nullPassed

theorem write_spec {g : Client → Client} (hshape : ∀ c, C c → C' (g c))
    (hblocks : ∀ c, C c → owned' (g c) + rest' = owned c + rest) :
    Spec (Holding x rest owned C) (modify (Machine.write g))
      (fun _ => Holding x rest' owned' C') E := by
  apply Spec.modify
  intro m h
  constructor
  · exact hshape m.client h.shape
  · exact h.transports
  · show m.ledger.Accounts (owned' (g m.client) + rest')
    rw [hblocks m.client h.shape]
    exact h.accounts
  · exact h.nullPassed

theorem readConfig_spec (hconfig : ∀ c, C c → c.config.isSome) :
    Spec (Holding x rest owned C) readConfig
      (fun cfg => Holding x rest owned fun c => C c ∧ c.config = some cfg) E := by
  apply Spec.get_bind
  intro m h
  obtain ⟨cfg, hcfg⟩ := Option.isSome_iff_exists.mp (hconfig m.client h.shape)
  simp only [hcfg]
  apply Spec.pure
  rintro _ rfl
  exact ⟨⟨h.shape, hcfg⟩, h.transports, h.accounts, h.nullPassed⟩

theorem writeConfig_spec {f : ConfigStorage → ConfigStorage}
    (hconfig : ∀ c, C c → c.config.isSome)
    (hshape : ∀ c cfg, C c → c.config = some cfg → C' (c.setConfig (some (f cfg))))
    (hblocks : ∀ c cfg, C c → c.config = some cfg →
      owned' (c.setConfig (some (f cfg))) + rest' = owned c + rest) :
    Spec (Holding x rest owned C) (writeConfig f) (fun _ => Holding x rest' owned' C') E := by
  apply (readConfig_spec hconfig).bind
  intro cfg
  apply write_spec
  · rintro c ⟨hc, hcfg⟩
    exact hshape c cfg hc hcfg
  · rintro c ⟨hc, hcfg⟩
    exact hblocks c cfg hc hcfg

/-- The construction has made `i` requests so far and the client is `c`. -/
structure At (x : Transports σ) (rest : Multiset Nat) (c : Client) (i : Nat) (m : Machine σ) :
    Prop where
  holding : Holding x rest clientBlocks (· = c) m
  requests : m.ledger.requests = i

/-- The construction is left because request `i` was refused. -/
def Refused (env : Env) (x : Transports σ) (rest : Multiset Nat) (c : Client) (i : Nat)
    (e : Exit) (m : Machine σ) : Prop :=
  (e = .initFail ∧ env.allows i = false) ∧ At x rest c (i + 1) m

theorem create_spec (env : Env) {store : Option Nat → Client → Client} {c : Client} {i : Nat}
    (hstore : ∀ p, clientBlocks (store p c) = owns p + clientBlocks c) :
    Spec (At x rest c i) (create env store)
      (fun p m => (p = some i ∧ env.allows i = true) ∧ At x rest (store (some i) c) (i + 1) m)
      (Refused env x rest (store none c) i) := by
  have hmalloc : Spec (At x rest c i) (malloc env)
      (fun p m => (p = if env.allows i then some i else none) ∧
        At x (owns p + rest) c (i + 1) m)
      (Refused env x rest (store none c) i) := by
    apply Spec.modifyGet
    rintro m ⟨h, rfl⟩
    refine ⟨Ledger.malloc_fst, ⟨h.shape, h.transports, ?_, h.nullPassed⟩,
      Ledger.malloc_requests⟩
    have haccounts := Ledger.malloc_accounts env.allows h.accounts
    rwa [add_left_comm] at haccounts
  apply hmalloc.bind
  intro p
  apply Spec.assume
  intro hp
  have hwrite : Spec (At x (owns p + rest) c (i + 1)) (modify (Machine.write (store p)))
      (fun _ => At x rest (store p c) (i + 1))
      (Refused env x rest (store none c) i) := by
    apply Spec.modify
    rintro m ⟨⟨rfl, htransports, haccounts, hnull⟩, hi⟩
    refine ⟨⟨rfl, htransports, ?_, hnull⟩, hi⟩
    show m.ledger.Accounts (clientBlocks (store p m.client) + rest)
    rw [hstore, add_comm (owns p), add_assoc]
    exact haccounts
  apply hwrite.bind
  intro _
  cases hallows : env.allows i with
  | true =>
      obtain rfl : p = some i := by simpa [hallows] using hp
      apply Spec.bind (Q := fun _ => At x rest (store (some i) c) (i + 1))
      · apply Spec.check
        · exact fun _ _ h => h
        · intro hnone
          simp at hnone
      · intro _
        apply Spec.pure
        intro m h
        exact ⟨⟨rfl, rfl⟩, h⟩
  | false =>
      obtain rfl : p = none := by simpa [hallows] using hp
      apply Spec.bind (Q := fun _ _ => False)
      · apply Spec.check
        · intro hsome
          simp at hsome
        · intro _ m h
          exact ⟨⟨rfl, hallows⟩, h⟩
      · intro _
        apply Spec.pure
        exact fun _ h => h.elim

/-- The construction is left because the package gave no handle. -/
def HandleRefused (init : σ → Option Nat × σ) (x : Transports σ) (rest : Multiset Nat)
    (c : Client) (i : Nat) (e : Exit) (m : Machine σ) : Prop :=
  (e = .initFail ∧ (init x.package).1 = none) ∧ At (x.run fun s => (init s).2) rest c i m

theorem makeHandle_spec {init : σ → Option Nat × σ} {c : Client} {i : Nat} :
    Spec (At x rest c i) (makeHandle init)
      (fun t m => (init x.package).1 = some t ∧ At (x.run fun s => (init s).2) rest c i m)
      (HandleRefused init x rest c i) := by
  have hcall : Spec (At x rest c i)
      (modifyGet fun m : Machine σ => ((init m.transports.package).1,
        { m with transports := m.transports.run fun s => (init s).2 }))
      (fun t m => t = (init x.package).1 ∧ At (x.run fun s => (init s).2) rest c i m)
      (HandleRefused init x rest c i) := by
    apply Spec.modifyGet
    rintro m ⟨⟨hclient, rfl, haccounts, hnull⟩, hi⟩
    exact ⟨rfl, ⟨hclient, rfl, haccounts, hnull⟩, hi⟩
  apply hcall.bind
  intro t
  apply Spec.assume
  intro ht
  cases t with
  | none =>
      apply Spec.throw
      exact fun _ h => ⟨⟨rfl, ht.symm⟩, h⟩
  | some t =>
      apply Spec.pure
      exact fun _ h => ⟨ht.symm, h⟩

end Primitives

end Esp32Iot.ClientBlocks
