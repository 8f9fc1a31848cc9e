import Mathlib.Algebra.Order.Group.Multiset

/-!
A record of the blocks a program has allocated and not released. A block is
named by the request that returned it, so that releasing it twice is noticed
whatever has been allocated in between.
-/

namespace Esp32Iot.BlockLedger

structure Ledger where
  requests : Nat
  live : Multiset Nat
  doubleFree : Bool
  deriving DecidableEq

/-- The blocks that a pointer owns. -/
def owns : Option Nat → Multiset Nat
  | none => 0
  | some a => {a}

@[simp] theorem owns_none : owns none = 0 := rfl

@[simp] theorem owns_some {a : Nat} : owns (some a) = {a} := rfl

namespace Ledger

/-- The request is granted or not, as `allows` says for its number. -/
def malloc (allows : Nat → Bool) (l : Ledger) : Option Nat × Ledger :=
  if allows l.requests then
    (some l.requests,
      { l with requests := l.requests + 1, live := l.requests ::ₘ l.live })
  else (none, { l with requests := l.requests + 1 })

def free (p : Option Nat) (l : Ledger) : Ledger :=
  match p with
  | none => l
  | some a =>
      { l with live := l.live.erase a, doubleFree := l.doubleFree || decide (a ∉ l.live) }

def freeAll (ps : List (Option Nat)) (l : Ledger) : Ledger :=
  ps.foldl (fun l p => l.free p) l

/-- The blocks in use are the `owned` ones, and none has been released twice. -/
structure Accounts (l : Ledger) (owned : Multiset Nat) : Prop where
  live : l.live = owned
  once : l.doubleFree = false

variable {l : Ledger} {owned : Multiset Nat} {allows : Nat → Bool}

@[simp] theorem malloc_requests : (l.malloc allows).2.requests = l.requests + 1 := by
  unfold malloc
  split <;> rfl

theorem malloc_fst :
    (l.malloc allows).1 = if allows l.requests then some l.requests else none := by
  unfold malloc
  split <;> rfl

theorem malloc_granted (h : allows l.requests = true) :
    l.malloc allows = (some l.requests,
      { l with requests := l.requests + 1, live := l.requests ::ₘ l.live }) :=
  if_pos h

theorem malloc_refused (h : allows l.requests = false) :
    l.malloc allows = (none, { l with requests := l.requests + 1 }) :=
  if_neg (by simp [h])

theorem malloc_accounts (allows : Nat → Bool) (h : l.Accounts owned) :
    (l.malloc allows).2.Accounts (owns (l.malloc allows).1 + owned) := by
  unfold malloc
  split
  · constructor
    · show l.requests ::ₘ l.live = {l.requests} + owned
      rw [h.live, Multiset.singleton_add]
    · exact h.once
  · constructor
    · show l.live = owns none + owned
      rw [h.live, owns_none, zero_add]
    · exact h.once

@[simp] theorem free_none : l.free none = l := rfl

@[simp] theorem freeAll_nil : l.freeAll [] = l := rfl

theorem freeAll_cons {p : Option Nat} {ps : List (Option Nat)} :
    l.freeAll (p :: ps) = (l.free p).freeAll ps := rfl

theorem free_accounts {p : Option Nat} (h : l.Accounts (owns p + owned)) :
    (l.free p).Accounts owned := by
  cases p with
  | none =>
      simpa using h
  | some a =>
      have hlive : l.live = a ::ₘ owned := by
        rw [h.live]
        exact Multiset.singleton_add a owned
      constructor
      · show l.live.erase a = owned
        rw [hlive, Multiset.erase_cons_head]
      · show (l.doubleFree || decide (a ∉ l.live)) = false
        simp [h.once, hlive]

theorem freeAll_accounts {ps : List (Option Nat)}
    (h : l.Accounts ((ps.map owns).sum + owned)) : (l.freeAll ps).Accounts owned := by
  induction ps generalizing l with
  | nil => simpa using h
  | cons p ps ih =>
      rw [freeAll_cons]
      apply ih
      apply free_accounts
      rw [List.map_cons, List.sum_cons, add_assoc] at h
      exact h

end Ledger

end Esp32Iot.BlockLedger
