import Mathlib.Data.List.Basic

namespace Esp32Iot.Footprint

universe u

inductive Reading (κ β α : Type u) : Type u
  | done (a : α)
  | read (i : κ) (next : β → Reading κ β α)

namespace Reading

variable {κ β α γ : Type u}

def bind : Reading κ β α → (α → Reading κ β γ) → Reading κ β γ
  | .done a, f => f a
  | .read i next, f => .read i fun b => (next b).bind f

instance : Monad (Reading κ β) where
  pure := .done
  bind := .bind

/-- The content of one cell. -/
def cell (i : κ) : Reading κ β β := .read i .done

def cells : List κ → Reading κ β (List β)
  | [] => pure []
  | i :: is => do
      let b ← cell i
      let bs ← cells is
      pure (b :: bs)

def value (m : κ → β) : Reading κ β α → α
  | .done a => a
  | .read i next => (next (m i)).value m

/-- The cells that are read, in order. -/
def footprint (m : κ → β) : Reading κ β α → List κ
  | .done _ => []
  | .read i next => i :: (next (m i)).footprint m

variable {m m' : κ → β}

@[simp] theorem value_pure (a : α) : (pure a : Reading κ β α).value m = a := rfl

@[simp] theorem footprint_pure (a : α) : (pure a : Reading κ β α).footprint m = [] := rfl

@[simp] theorem value_cell (i : κ) : (cell i : Reading κ β β).value m = m i := rfl

@[simp] theorem footprint_cell (i : κ) : (cell i : Reading κ β β).footprint m = [i] := rfl

@[simp] theorem value_bind (x : Reading κ β α) (f : α → Reading κ β γ) :
    (x >>= f).value m = (f (x.value m)).value m := by
  change (x.bind f).value m = _
  induction x with
  | done a => rfl
  | read i next ih => exact ih (m i)

@[simp] theorem footprint_bind (x : Reading κ β α) (f : α → Reading κ β γ) :
    (x >>= f).footprint m = x.footprint m ++ (f (x.value m)).footprint m := by
  change (x.bind f).footprint m = _
  induction x with
  | done a => rfl
  | read i next ih => exact congrArg (i :: ·) (ih (m i))

@[simp] theorem value_cells (is : List κ) : (cells is : Reading κ β _).value m = is.map m := by
  induction is with
  | nil => rfl
  | cons i is ih => simp [cells, ih]

@[simp] theorem footprint_cells (is : List κ) :
    (cells is : Reading κ β _).footprint m = is := by
  induction is with
  | nil => rfl
  | cons i is ih => simp [cells, ih]

/-- Memories that agree on the cells that are read give the same result. -/
theorem value_congr {x : Reading κ β α} (h : ∀ i ∈ x.footprint m, m i = m' i) :
    x.value m = x.value m' := by
  induction x with
  | done a => rfl
  | read i next ih =>
      have hi : m i = m' i := h i (by simp [footprint])
      have hrest : (next (m i)).value m = (next (m i)).value m' :=
        ih (m i) fun j hj => h j (by simp [footprint, hj])
      rw [value, value, hrest, hi]

end Reading

end Esp32Iot.Footprint
