import Mathlib.Data.List.Basic

/-!
Finite runs of a partial, labelled step function. A guard says which of the
enabled steps a run may take, so one step function serves every assumption on
the schedule and on the environment.
-/

namespace Esp32Iot.GuardedRun

variable {σ α τ β ε : Type*}

/-- `Run step guard s as t`: the actions `as` lead from `s` to `t`, and each is
allowed by the guard in the state it starts from. -/
inductive Run (step : σ → α → Option σ) (guard : σ → α → Prop) (s : σ) :
    List α → σ → Prop
  | nil : Run step guard s [] s
  | snoc {t u : σ} {as : List α} {a : α} (run : Run step guard s as t)
      (allowed : guard t a) (next : step t a = some u) :
      Run step guard s (as ++ [a]) u

def Free (_ : σ) (_ : α) : Prop := True

instance (s : σ) (a : α) : Decidable (Free s a) := inferInstanceAs (Decidable True)

variable {step : σ → α → Option σ} {guard guard' : σ → α → Prop}

theorem Run.mono {s t : σ} {as : List α} (h : Run step guard s as t)
    (himp : ∀ u a, guard u a → guard' u a) : Run step guard' s as t := by
  induction h with
  | nil => exact .nil
  | snoc _ allowed next ih => exact .snoc ih (himp _ _ allowed) next

theorem Run.free {s t : σ} {as : List α} (h : Run step guard s as t) :
    Run step Free s as t :=
  h.mono fun _ _ _ => trivial

theorem Run.single {s t : σ} {a : α} (h : step s a = some t) : Run step Free s [a] t :=
  .snoc .nil trivial h

theorem Run.trans {s t u : σ} {as bs : List α} (h : Run step guard s as t)
    (h' : Run step guard t bs u) : Run step guard s (as ++ bs) u := by
  induction h' with
  | nil => simpa using h
  | snoc _ allowed next ih =>
      rw [← List.append_assoc]
      exact .snoc ih allowed next

def Reaches (step : σ → α → Option σ) (s t : σ) : Prop := ∃ as, Run step Free s as t

theorem Reaches.refl {s : σ} : Reaches step s s := ⟨[], .nil⟩

theorem Reaches.trans {s t u : σ} (h : Reaches step s t) (h' : Reaches step t u) :
    Reaches step s u := by
  obtain ⟨as, hrun⟩ := h
  obtain ⟨bs, hrun'⟩ := h'
  exact ⟨as ++ bs, hrun.trans hrun'⟩

theorem Reaches.head {s t u : σ} (a : α) (h : step s a = some t) (h' : Reaches step t u) :
    Reaches step s u :=
  .trans ⟨[a], .single h⟩ h'

/-- A function that maps each step to some steps of the other system maps runs
to runs. -/
theorem Reaches.map {step' : τ → β → Option τ} (f : σ → τ)
    (hstep : ∀ s a t, step s a = some t → Reaches step' (f s) (f t)) {s t : σ}
    (h : Reaches step s t) : Reaches step' (f s) (f t) := by
  obtain ⟨as, hrun⟩ := h
  induction hrun with
  | nil => exact .refl
  | snoc _ _ next ih => exact ih.trans (hstep _ _ _ next)

/-- An inductive invariant; its step case may use the run so far, and through
it every invariant that is already known. -/
theorem Run.invariant {P : σ → Prop} {s t : σ} {as : List α}
    (h : Run step guard s as t) (hstart : P s)
    (hstep : ∀ bs u a v, Run step guard s bs u → P u → guard u a →
      step u a = some v → P v) : P t := by
  induction h with
  | nil => exact hstart
  | snoc run allowed next ih =>
      exact hstep _ _ _ _ run ih allowed next

/-- An inductive invariant that also speaks of the actions taken so far. -/
theorem Run.history {P : List α → σ → Prop} {s t : σ} {as : List α}
    (h : Run step guard s as t) (hstart : P [] s)
    (hstep : ∀ bs u a v, Run step guard s bs u → P bs u → guard u a →
      step u a = some v → P (bs ++ [a]) v) : P as t := by
  induction h with
  | nil => exact hstart
  | snoc run allowed next ih => exact hstep _ _ _ _ run ih allowed next

/-- Forward simulation: a relation that every allowed step keeps, up to
finitely many steps of the other system, relates the ends of whole runs. -/
theorem Run.simulates {step' : τ → β → Option τ} {R : σ → τ → Prop}
    {s t : σ} {c : τ} {as : List α} (h : Run step guard s as t) (hstart : R s c)
    (hstep : ∀ as u a v bs d, Run step guard s as u → Run step' Free c bs d → R u d →
      guard u a → step u a = some v → ∃ cs e, Run step' Free d cs e ∧ R v e) :
    ∃ bs d, Run step' Free c bs d ∧ R t d := by
  induction h with
  | nil => exact ⟨[], c, .nil, hstart⟩
  | snoc run allowed next ih =>
      obtain ⟨bs, d, hrun, hrel⟩ := ih
      obtain ⟨cs, e, hrun', hrel'⟩ := hstep _ _ _ _ _ _ run hrun hrel allowed next
      exact ⟨bs ++ cs, e, hrun.trans hrun', hrel'⟩

/-- Execute a list of actions, checking a decidable guard before each. -/
def exec (step : σ → α → Option σ) (guard : σ → α → Prop)
    [∀ s a, Decidable (guard s a)] : σ → List α → Option σ
  | s, [] => some s
  | s, a :: as =>
      if guard s a then (step s a).bind fun t => exec step guard t as else none

theorem Run.of_exec [∀ s a, Decidable (guard s a)] {s t : σ} {as : List α}
    (h : exec step guard s as = some t) : Run step guard s as t := by
  induction as generalizing s with
  | nil =>
      cases h
      exact .nil
  | cons a as ih =>
      simp only [exec] at h
      split at h
      · rename_i allowed
        obtain ⟨u, next, hrest⟩ := Option.bind_eq_some_iff.mp h
        simpa using (Run.snoc .nil allowed next).trans (ih hrest)
      · cases h

theorem Run.exists_of_exec (step : σ → α → Option σ) (guard : σ → α → Prop)
    [∀ s a, Decidable (guard s a)] (s : σ) (as : List α)
    (h : (exec step guard s as).isSome = true) : ∃ t, Run step guard s as t := by
  obtain ⟨t, ht⟩ := Option.isSome_iff_exists.mp h
  exact ⟨t, .of_exec ht⟩

theorem Run.exists_of_exec_any (step : σ → α → Option σ) (guard : σ → α → Prop)
    [∀ s a, Decidable (guard s a)] (s : σ) (as : List α) (p : σ → Bool)
    (h : (exec step guard s as).any p = true) : ∃ t, Run step guard s as t ∧ p t = true := by
  obtain ⟨t, ht, hp⟩ := (Option.any_eq_true _ _).mp h
  exact ⟨t, .of_exec ht, hp⟩

/-- Every event of a log satisfies `P` of what was logged before it. -/
def Ordered (P : List ε → ε → Prop) (log : List ε) : Prop :=
  ∀ before e after, log = before ++ e :: after → P before e

theorem ordered_nil {P : List ε → ε → Prop} : Ordered P [] := by
  intro before e after h
  simp at h

theorem ordered_concat {P : List ε → ε → Prop} {log : List ε} {e : ε} :
    Ordered P (log ++ [e]) ↔ Ordered P log ∧ P log e := by
  constructor
  · intro h
    refine ⟨fun before e' after hlog => ?_, h log e [] rfl⟩
    exact h before e' (after ++ [e]) (by simp [hlog])
  · rintro ⟨hlog, he⟩ before e' after h
    rcases List.eq_nil_or_concat after with rfl | ⟨init, last, rfl⟩
    · obtain ⟨rfl, heq⟩ := List.append_inj' h rfl
      cases heq
      exact he
    · have h' : log ++ [e] = (before ++ e' :: init) ++ [last] := by simpa using h
      obtain ⟨hinit, -⟩ := List.append_inj' h' rfl
      exact hlog before e' init hinit

theorem Ordered.append {P : List ε → ε → Prop} {log : List ε} {e : Option ε}
    (h : Ordered P log) (he : ∀ x ∈ e, P log x) : Ordered P (log ++ e.toList) := by
  cases e with
  | none => simpa using h
  | some x => exact ordered_concat.mpr ⟨h, he x rfl⟩

end Esp32Iot.GuardedRun
