import Mathlib.Data.List.Basic
import Esp32Iot.GuardedRun

/-!
A log that only the holder of a lock adds to. Whatever the interleaving, the log
consists of sections, one for each time the lock was held, one after the other.
-/

namespace Esp32Iot.CriticalSection

open Esp32Iot.GuardedRun

variable {τ ε : Type*}

structure Section (τ ε : Type*) where
  owner : τ
  entries : List ε

structure Log (τ ε : Type*) where
  opened : Option (Section τ ε)
  closed : List (Section τ ε)
  entries : List ε

inductive Move (τ ε : Type*)
  | enter (t : τ)
  | add (t : τ) (es : List ε)
  | leave (t : τ)

def Log.empty : Log τ ε := ⟨none, [], []⟩

def Log.Contiguous (l : Log τ ε) : Prop :=
  l.entries = l.closed.flatMap (·.entries) ++ l.opened.toList.flatMap (·.entries)

variable [DecidableEq τ]

def step (l : Log τ ε) : Move τ ε → Option (Log τ ε)
  | .enter t =>
      match l.opened with
      | none => some { l with opened := some ⟨t, []⟩ }
      | some _ => none
  | .add t es =>
      match l.opened with
      | some s =>
          if s.owner = t then
            some { l with opened := some ⟨t, s.entries ++ es⟩, entries := l.entries ++ es }
          else none
      | none => none
  | .leave t =>
      match l.opened with
      | some s =>
          if s.owner = t then some { l with opened := none, closed := l.closed ++ [s] }
          else none
      | none => none

variable {l l' : Log τ ε} {t : τ}

theorem enter_run (hopened : l.opened = none) :
    Run step Free l [.enter t] { l with opened := some ⟨t, []⟩ } := by
  apply Run.single
  simp [step, hopened]

theorem add_run {es : List ε} (es' : List ε) (hopened : l.opened = some ⟨t, es⟩) :
    Run step Free l [.add t es']
      { l with opened := some ⟨t, es ++ es'⟩, entries := l.entries ++ es' } := by
  apply Run.single
  simp [step, hopened]

theorem leave_run {es : List ε} (hopened : l.opened = some ⟨t, es⟩) :
    Run step Free l [.leave t]
      { l with opened := none, closed := l.closed ++ [⟨t, es⟩] } := by
  apply Run.single
  simp [step, hopened]

theorem contiguous_step {m : Move τ ε} (h : l.Contiguous) (hstep : step l m = some l') :
    l'.Contiguous := by
  unfold Log.Contiguous at h ⊢
  cases m with
  | enter t =>
      simp only [step] at hstep
      split at hstep
      · rename_i hopened
        cases hstep
        simpa [hopened] using h
      · cases hstep
  | add t es =>
      simp only [step] at hstep
      split at hstep
      · rename_i s hopened
        split at hstep
        · cases hstep
          simp [h, hopened]
        · cases hstep
      · cases hstep
  | leave t =>
      simp only [step] at hstep
      split at hstep
      · rename_i s hopened
        split at hstep
        · cases hstep
          simpa [hopened] using h
        · cases hstep
      · cases hstep

/-- The entries of different sections are never mixed. -/
theorem contiguous_run {ms : List (Move τ ε)} (run : Run step Free Log.empty ms l) :
    l.Contiguous := by
  apply run.invariant (P := Log.Contiguous) rfl
  intro bs u m v _ hu _ hstep
  exact contiguous_step hu hstep

end Esp32Iot.CriticalSection
