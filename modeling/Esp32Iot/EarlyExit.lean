import Mathlib

/-!
Programs on a state that may be left early. A specification says what holds of
the state at the end and, apart from it, what holds where the program is left.
-/

set_option mvcgen.warning false

namespace Esp32Iot.EarlyExit

open Std.Do

variable {ε σ α β ι : Type}

abbrev Program (ε σ α : Type) := ExceptT ε (StateM σ) α

/-- The step is made only if `c` holds. -/
def onlyIf (c : Prop) [Decidable c] (x : Program ε σ Unit) : Program ε σ Unit :=
  if c then x else pure ()

/-- The program is left unless `c` holds. -/
def check (c : Prop) [Decidable c] (e : ε) : Program ε σ Unit :=
  if c then pure () else throw e

def Spec (P : σ → Prop) (x : Program ε σ α) (Q : α → σ → Prop) (E : ε → σ → Prop) : Prop :=
  ⦃fun s => ⌜P s⌝⦄ x ⦃post⟨fun a s => ⌜Q a s⌝, fun e s => ⌜E e s⌝⟩⦄

namespace Spec

variable {P P' : σ → Prop} {Q Q' : α → σ → Prop} {E E' : ε → σ → Prop}
  {x : Program ε σ α}

theorem iff_run : Spec P x Q E ↔ ∀ s, P s →
    match x.run.run s with
    | (.ok a, s') => Q a s'
    | (.error e, s') => E e s' := by
  have hwp : ∀ s, (wp⟦x⟧ (post⟨fun a s => ⌜Q a s⌝, fun e s => ⌜E e s⌝⟩) s).down ↔
      match x.run.run s with
      | (.ok a, s') => Q a s'
      | (.error e, s') => E e s' := by
    intro s
    simp only [WP.wp, PredTrans.apply_pushExcept, PredTrans.apply_pushArg,
      PredTrans.apply_Pure_pure]
    generalize StateT.run (ExceptT.run x) s = r
    rcases r with ⟨a | e, s'⟩
    · exact Iff.rfl
    · exact Iff.rfl
  constructor
  · intro h s hs
    exact (hwp s).mp (h s hs)
  · intro h s hs
    exact (hwp s).mpr (h s hs)

theorem weaken (h : Spec P x Q E) (hP : ∀ s, P' s → P s) (hQ : ∀ a s, Q a s → Q' a s)
    (hE : ∀ e s, E e s → E' e s) : Spec P' x Q' E' := by
  rw [iff_run] at h ⊢
  intro s hs
  have hrun := h s (hP s hs)
  split at hrun
  · exact hQ _ _ hrun
  · exact hE _ _ hrun

theorem before (h : Spec P x Q E) (hP : ∀ s, P' s → P s) : Spec P' x Q E :=
  h.weaken hP (fun _ _ hQ => hQ) (fun _ _ hE => hE)

theorem after (h : Spec P x Q E) (hQ : ∀ a s, Q a s → Q' a s) : Spec P x Q' E :=
  h.weaken (fun _ hP => hP) hQ (fun _ _ hE => hE)

theorem leaving (h : Spec P x Q E) (hE : ∀ e s, E e s → E' e s) : Spec P x Q E' :=
  h.weaken (fun _ hP => hP) (fun _ _ hQ => hQ) hE

/-- The same at any one start state. -/
theorem at_each (h : ∀ s, P s → Spec (· = s) x Q E) : Spec P x Q E := by
  rw [iff_run]
  intro s hs
  exact iff_run.mp (h s hs) s rfl

theorem assume {A : Prop} (h : A → Spec P x Q E) : Spec (fun s => A ∧ P s) x Q E := by
  apply at_each
  rintro s ⟨hA, hs⟩
  apply (h hA).before
  rintro _ rfl
  exact hs

theorem choose {P : ι → σ → Prop} (h : ∀ i, Spec (P i) x Q E) :
    Spec (fun s => ∃ i, P i s) x Q E := by
  apply at_each
  rintro s ⟨i, hs⟩
  apply (h i).before
  rintro _ rfl
  exact hs

theorem bind {R : β → σ → Prop} {f : α → Program ε σ β} (hx : Spec P x Q E)
    (hf : ∀ a, Spec (Q a) (f a) R E) : Spec P (x >>= f) R E :=
  Triple.bind x f hx hf

theorem pure {a : α} (h : ∀ s, P s → Q a s) : Spec P (Pure.pure a : Program ε σ α) Q E := by
  unfold Spec
  mvcgen
  exact h _ ‹_›

theorem throw {e : ε} (h : ∀ s, P s → E e s) :
    Spec P (MonadExcept.throw e : Program ε σ α) Q E := by
  unfold Spec
  mvcgen
  exact h _ ‹_›

theorem modify {f : σ → σ} {Q : Unit → σ → Prop} (h : ∀ s, P s → Q () (f s)) :
    Spec P (modify f : Program ε σ Unit) Q E := by
  unfold Spec
  mvcgen
  exact h _ ‹_›

theorem modifyGet {f : σ → α × σ} (h : ∀ s, P s → Q (f s).1 (f s).2) :
    Spec P (modifyGet f : Program ε σ α) Q E := by
  unfold Spec
  mvcgen
  exact h _ ‹_›

theorem get_bind {f : σ → Program ε σ α} (h : ∀ s, P s → Spec (· = s) (f s) Q E) :
    Spec P (get >>= f) Q E := by
  apply at_each
  intro s hs
  have hget : Spec (· = s) (get : Program ε σ σ) (fun a s' => a = s ∧ s' = s) E := by
    unfold Spec
    mvcgen
  apply hget.bind
  intro a
  apply at_each
  rintro _ ⟨rfl, rfl⟩
  exact h _ hs

theorem onlyIf {c : Prop} [Decidable c] {x : Program ε σ Unit} {Q : Unit → σ → Prop}
    (hx : c → Spec P x Q E) (hskip : ¬c → ∀ s, P s → Q () s) :
    Spec P (EarlyExit.onlyIf c x) Q E := by
  unfold EarlyExit.onlyIf
  split
  · exact hx ‹_›
  · exact Spec.pure (hskip ‹_›)

theorem check {c : Prop} [Decidable c] {e : ε} {Q : Unit → σ → Prop}
    (hpass : c → ∀ s, P s → Q () s) (hleave : ¬c → ∀ s, P s → E e s) :
    Spec P (EarlyExit.check c e) Q E := by
  unfold EarlyExit.check
  split
  · exact Spec.pure (hpass ‹_›)
  · exact Spec.throw (hleave ‹_›)

end Spec

end Esp32Iot.EarlyExit
