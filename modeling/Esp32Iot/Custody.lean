import Mathlib.Data.List.Nodup
import Mathlib.Logic.Function.Basic
import Esp32Iot.GuardedRun

namespace Esp32Iot.Custody

open Esp32Iot.GuardedRun

variable {π κ : Type*}

structure Ledger (π κ : Type*) where
  held : π → Option κ
  created : List κ
  answered : List κ
  removed : List κ

inductive Move (π κ : Type*)
  | create (a : π) (k : κ)
  | pass (a b : π)
  | answer (a b : π)
  | remove (a : π)

def Ledger.empty : Ledger π κ := ⟨fun _ => none, [], [], []⟩

structure LedgerInv (isDone : π → Bool) (l : Ledger π κ) : Prop where
  exclusive : ∀ a b k, l.held a = some k → l.held b = some k → a = b
  created : ∀ a k, l.held a = some k → k ∈ l.created
  answered : ∀ a k, l.held a = some k → (k ∈ l.answered ↔ isDone a = true)
  kept : ∀ a k, l.held a = some k → k ∉ l.removed
  accounted : ∀ k ∈ l.created, (∃ a, l.held a = some k) ∨ k ∈ l.removed
  answeredCreated : ∀ k ∈ l.answered, k ∈ l.created
  removedAnswered : ∀ k ∈ l.removed, k ∈ l.answered
  answeredOnce : l.answered.Nodup
  removedOnce : l.removed.Nodup

theorem ne_of_held {held : π → Option κ} {a b : π} {k : κ} (ha : held a = some k)
    (hb : held b = none) : a ≠ b := by
  rintro rfl
  rw [ha] at hb
  cases hb

variable {isDone : π → Bool} {l l' : Ledger π κ}

theorem ledgerInv_empty : LedgerInv isDone (Ledger.empty : Ledger π κ) := by
  constructor <;> simp [Ledger.empty]

variable [DecidableEq π]

def relocate (held : π → Option κ) (a b : π) (k : κ) : π → Option κ :=
  Function.update (Function.update held a none) b (some k)

theorem relocate_eq_some {held : π → Option κ} {a b c : π} {j k : κ} (hab : a ≠ b) :
    relocate held a b k c = some j ↔
      c = b ∧ k = j ∨ c ≠ a ∧ c ≠ b ∧ held c = some j := by
  unfold relocate
  by_cases hb : c = b
  · subst c
    simp
  · rw [Function.update_of_ne hb]
    by_cases ha : c = a
    · subst c
      simp [hab]
    · rw [Function.update_of_ne ha]
      simp [ha, hb]

theorem LedgerInv.create {a : π} {k : κ} (h : LedgerInv isDone l)
    (hdone : isDone a = false) (hempty : l.held a = none) (hnew : k ∉ l.created) :
    LedgerInv isDone { l with
      held := Function.update l.held a (some k)
      created := l.created ++ [k] } := by
  have hcases : ∀ {c j}, Function.update l.held a (some k) c = some j →
      c = a ∧ j = k ∨ c ≠ a ∧ l.held c = some j := by
    intro c j hc
    by_cases hca : c = a
    · subst c
      rw [Function.update_self] at hc
      exact .inl ⟨rfl, (Option.some.inj hc).symm⟩
    · rw [Function.update_of_ne hca] at hc
      exact .inr ⟨hca, hc⟩
  constructor
  · intro b c j hb hc
    rcases hcases hb with ⟨rfl, rfl⟩ | ⟨-, hb'⟩ <;> rcases hcases hc with ⟨rfl, hj⟩ | ⟨-, hc'⟩
    · rfl
    · exact absurd (h.created _ _ hc') hnew
    · exact absurd (h.created _ _ hb') (hj ▸ hnew)
    · exact h.exclusive _ _ _ hb' hc'
  · intro c j hc
    rcases hcases hc with ⟨rfl, rfl⟩ | ⟨-, hc⟩
    · simp
    · simp [h.created _ _ hc]
  · intro c j hc
    rcases hcases hc with ⟨rfl, rfl⟩ | ⟨-, hc⟩
    · have hnot : j ∉ l.answered := fun hj => hnew (h.answeredCreated _ hj)
      simp [hnot, hdone]
    · exact h.answered _ _ hc
  · intro c j hc
    rcases hcases hc with ⟨rfl, rfl⟩ | ⟨-, hc⟩
    · exact fun hj => hnew (h.answeredCreated _ (h.removedAnswered _ hj))
    · exact h.kept _ _ hc
  · intro j hj
    rcases List.mem_append.mp hj with hold | hk
    · rcases h.accounted j hold with ⟨c, hc⟩ | hremoved
      · have hca : c ≠ a := ne_of_held hc hempty
        exact .inl ⟨c, (Function.update_of_ne hca _ _).trans hc⟩
      · exact .inr hremoved
    · rw [List.mem_singleton.mp hk]
      exact .inl ⟨a, Function.update_self _ _ _⟩
  · intro j hj
    simp [h.answeredCreated j hj]
  · exact h.removedAnswered
  · exact h.answeredOnce
  · exact h.removedOnce

/-- What holds after item `k` has moved from `a` to `b`. -/
theorem LedgerInv.relocated {a b : π} {k : κ} (h : LedgerInv isDone l)
    (ha : l.held a = some k) (hb : l.held b = none) :
    (∀ c d j, relocate l.held a b k c = some j → relocate l.held a b k d = some j →
      c = d) ∧
    ∀ c j, relocate l.held a b k c = some j → c = b ∧ j = k ∨ j ≠ k ∧ l.held c = some j := by
  have hab : a ≠ b := ne_of_held ha hb
  have hcases : ∀ {c j}, relocate l.held a b k c = some j →
      c = b ∧ j = k ∨ j ≠ k ∧ l.held c = some j := by
    intro c j hc
    rcases (relocate_eq_some hab).mp hc with ⟨hcb, hjk⟩ | ⟨hca, -, hc⟩
    · exact .inl ⟨hcb, hjk.symm⟩
    · refine .inr ⟨?_, hc⟩
      intro hjk
      subst j
      exact hca (h.exclusive _ _ _ hc ha)
  refine ⟨?_, fun c j hc => hcases hc⟩
  intro c d j hc hd
  rcases hcases hc with ⟨rfl, rfl⟩ | ⟨hne, hc⟩ <;> rcases hcases hd with ⟨rfl, hj⟩ | ⟨hne', hd⟩
  · rfl
  · exact absurd rfl hne'
  · exact absurd hj hne
  · exact h.exclusive _ _ _ hc hd

theorem LedgerInv.still {a b : π} {j k : κ} (h : LedgerInv isDone l)
    (ha : l.held a = some k) (hb : l.held b = none) (hj : j ∈ l.created) :
    (∃ c, relocate l.held a b k c = some j) ∨ j ∈ l.removed := by
  have hab : a ≠ b := ne_of_held ha hb
  by_cases hjk : k = j
  · exact .inl ⟨b, (relocate_eq_some hab).mpr (.inl ⟨rfl, hjk⟩)⟩
  · rcases h.accounted j hj with ⟨c, hc⟩ | hremoved
    · refine .inl ⟨c, (relocate_eq_some hab).mpr (.inr ⟨?_, ne_of_held hc hb, hc⟩)⟩
      rintro rfl
      rw [ha] at hc
      exact hjk (Option.some.inj hc)
    · exact .inr hremoved

theorem LedgerInv.pass {a b : π} {k : κ} (h : LedgerInv isDone l)
    (ha : l.held a = some k) (hdone : isDone b = isDone a) (hb : l.held b = none) :
    LedgerInv isDone { l with held := relocate l.held a b k } := by
  obtain ⟨hexclusive, hcases⟩ := h.relocated ha hb
  constructor
  · exact hexclusive
  · intro c j hc
    rcases hcases c j hc with ⟨-, rfl⟩ | ⟨-, hc⟩
    · exact h.created _ _ ha
    · exact h.created _ _ hc
  · intro c j hc
    rcases hcases c j hc with ⟨rfl, rfl⟩ | ⟨-, hc⟩
    · rw [hdone]
      exact h.answered _ _ ha
    · exact h.answered _ _ hc
  · intro c j hc
    rcases hcases c j hc with ⟨-, rfl⟩ | ⟨-, hc⟩
    · exact h.kept _ _ ha
    · exact h.kept _ _ hc
  · exact fun j hj => h.still ha hb hj
  · exact h.answeredCreated
  · exact h.removedAnswered
  · exact h.answeredOnce
  · exact h.removedOnce

theorem LedgerInv.answer {a b : π} {k : κ} (h : LedgerInv isDone l)
    (ha : l.held a = some k) (hopen : isDone a = false) (hdone : isDone b = true)
    (hb : l.held b = none) :
    LedgerInv isDone { l with
      held := relocate l.held a b k
      answered := l.answered ++ [k] } := by
  obtain ⟨hexclusive, hcases⟩ := h.relocated ha hb
  have hnew : k ∉ l.answered := by
    rw [h.answered _ _ ha, hopen]
    simp
  constructor
  · exact hexclusive
  · intro c j hc
    rcases hcases c j hc with ⟨-, rfl⟩ | ⟨-, hc⟩
    · exact h.created _ _ ha
    · exact h.created _ _ hc
  · intro c j hc
    rcases hcases c j hc with ⟨rfl, rfl⟩ | ⟨hne, hc⟩
    · simp [hdone]
    · have hold := h.answered _ _ hc
      simp [hold, hne]
  · intro c j hc
    rcases hcases c j hc with ⟨-, rfl⟩ | ⟨-, hc⟩
    · exact h.kept _ _ ha
    · exact h.kept _ _ hc
  · exact fun j hj => h.still ha hb hj
  · intro j hj
    rcases List.mem_append.mp hj with hold | hk
    · exact h.answeredCreated _ hold
    · rw [List.mem_singleton.mp hk]
      exact h.created _ _ ha
  · exact fun j hj => List.mem_append_left _ (h.removedAnswered _ hj)
  · exact List.concat_eq_append ▸ h.answeredOnce.concat hnew
  · exact h.removedOnce

theorem LedgerInv.remove {a : π} {k : κ} (h : LedgerInv isDone l)
    (ha : l.held a = some k) (hdone : isDone a = true) :
    LedgerInv isDone { l with
      held := Function.update l.held a none
      removed := l.removed ++ [k] } := by
  have hcases : ∀ {c j}, Function.update l.held a none c = some j →
      c ≠ a ∧ l.held c = some j := by
    intro c j hc
    by_cases hca : c = a
    · subst c
      rw [Function.update_self] at hc
      cases hc
    · rw [Function.update_of_ne hca] at hc
      exact ⟨hca, hc⟩
  constructor
  · exact fun b c j hb hc => h.exclusive _ _ _ (hcases hb).2 (hcases hc).2
  · exact fun c j hc => h.created _ _ (hcases hc).2
  · exact fun c j hc => h.answered _ _ (hcases hc).2
  · intro c j hc hj
    obtain ⟨hca, hc⟩ := hcases hc
    rcases List.mem_append.mp hj with hold | hk
    · exact h.kept _ _ hc hold
    · rw [List.mem_singleton.mp hk] at hc
      exact hca (h.exclusive _ _ _ hc ha)
  · intro j hj
    rcases h.accounted j hj with ⟨c, hc⟩ | hremoved
    · by_cases hca : c = a
      · subst c
        rw [ha] at hc
        cases hc
        exact .inr (by simp)
      · exact .inl ⟨c, (Function.update_of_ne hca _ _).trans hc⟩
    · exact .inr (List.mem_append_left _ hremoved)
  · exact h.answeredCreated
  · intro j hj
    rcases List.mem_append.mp hj with hold | hk
    · exact h.removedAnswered _ hold
    · rw [List.mem_singleton.mp hk]
      exact (h.answered _ _ ha).mpr hdone
  · exact h.answeredOnce
  · exact List.concat_eq_append ▸ h.removedOnce.concat (h.kept _ _ ha)

variable [DecidableEq κ]

def step (isDone : π → Bool) (l : Ledger π κ) : Move π κ → Option (Ledger π κ)
  | .create a k =>
      if isDone a = false ∧ l.held a = none ∧ k ∉ l.created then
        some { l with
          held := Function.update l.held a (some k)
          created := l.created ++ [k] }
      else none
  | .pass a b =>
      match l.held a with
      | some k =>
          if isDone b = isDone a ∧ l.held b = none then
            some { l with held := relocate l.held a b k }
          else none
      | none => none
  | .answer a b =>
      match l.held a with
      | some k =>
          if isDone a = false ∧ isDone b = true ∧ l.held b = none then
            some { l with
              held := relocate l.held a b k
              answered := l.answered ++ [k] }
          else none
      | none => none
  | .remove a =>
      match l.held a with
      | some k =>
          if isDone a = true then
            some { l with
              held := Function.update l.held a none
              removed := l.removed ++ [k] }
          else none
      | none => none

theorem ledgerInv_step {m : Move π κ} (h : LedgerInv isDone l)
    (hstep : step isDone l m = some l') : LedgerInv isDone l' := by
  cases m with
  | create a k =>
      simp only [step] at hstep
      split at hstep
      · rename_i hcreate
        cases hstep
        exact h.create hcreate.1 hcreate.2.1 hcreate.2.2
      · cases hstep
  | pass a b =>
      simp only [step] at hstep
      split at hstep
      · rename_i k ha
        split at hstep
        · rename_i hpass
          cases hstep
          exact h.pass ha hpass.1 hpass.2
        · cases hstep
      · cases hstep
  | answer a b =>
      simp only [step] at hstep
      split at hstep
      · rename_i k ha
        split at hstep
        · rename_i hanswer
          cases hstep
          exact h.answer ha hanswer.1 hanswer.2.1 hanswer.2.2
        · cases hstep
      · cases hstep
  | remove a =>
      simp only [step] at hstep
      split at hstep
      · rename_i k ha
        split at hstep
        · rename_i hremove
          cases hstep
          exact h.remove ha hremove
        · cases hstep
      · cases hstep

theorem ledgerInv_run {ms : List (Move π κ)}
    (run : Run (step isDone) Free Ledger.empty ms l) : LedgerInv isDone l := by
  apply run.invariant ledgerInv_empty
  intro bs u m v _ hu _ hstep
  exact ledgerInv_step hu hstep

end Esp32Iot.Custody
