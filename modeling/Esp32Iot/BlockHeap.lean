import Mathlib.Logic.Function.Basic

/-!
A heap of separately allocated blocks. Every block carries a ghost tag naming
the object it was allocated for. Freeing a block leaves its content behind, as
C does: a dangling pointer may still find it, until the address is reused.
-/

namespace Esp32Iot.BlockHeap

structure Block (β : Type*) where
  tag : Nat
  live : Bool
  content : β
  deriving DecidableEq, Repr

structure Heap (β : Type*) where
  block : Nat → Option (Block β)

namespace Heap

variable {β : Type*} (h : Heap β)

def empty : Heap β := ⟨fun _ => none⟩

def isLive (a : Nat) : Bool := (h.block a).any (·.live)

/-- What a call `malloc(size)` may return: nothing, or the address of a block
that is not in use. No block has a size of zero or less. -/
def MallocAllows (size : Int) : Option Nat → Prop
  | none => True
  | some a => 0 < size ∧ h.isLive a = false

instance (size : Int) : (r : Option Nat) → Decidable (h.MallocAllows size r)
  | none => inferInstanceAs (Decidable True)
  | some a => inferInstanceAs (Decidable (0 < size ∧ h.isLive a = false))

def alloc (a tag : Nat) (content : β) : Heap β :=
  ⟨Function.update h.block a (some ⟨tag, true, content⟩)⟩

def write (a : Nat) (content : β) : Heap β :=
  ⟨Function.update h.block a ((h.block a).map fun b => { b with content := content })⟩

def free (a : Nat) : Heap β :=
  ⟨Function.update h.block a ((h.block a).map fun b => { b with live := false })⟩

def load (a : Nat) : Option β :=
  match h.block a with
  | some ⟨_, true, content⟩ => some content
  | _ => none

def residue (a : Nat) : Option β := (h.block a).map (·.content)

/-- The block at `a` is in use, was allocated for `tag` and contains `content`. -/
def Holds (a tag : Nat) (content : β) : Prop := h.block a = some ⟨tag, true, content⟩

/-- Every block in use that belongs to `tag` is the same in both heaps. -/
def Keeps (tag : Nat) (h h' : Heap β) : Prop :=
  ∀ a content, h.Holds a tag content → h'.Holds a tag content

variable {h} {h' h'' : Heap β} {a b tag tag' : Nat} {content content' : β}

theorem Holds.isLive (hb : h.Holds a tag content) : h.isLive a = true := by
  have hblock : h.block a = some ⟨tag, true, content⟩ := hb
  simp [Heap.isLive, hblock]

theorem Holds.load (hb : h.Holds a tag content) : h.load a = some content := by
  have hblock : h.block a = some ⟨tag, true, content⟩ := hb
  simp [Heap.load, hblock]

theorem Holds.unique (hb : h.Holds a tag content) (hb' : h.Holds a tag' content') :
    tag = tag' ∧ content = content' := by
  have heq := Option.some.inj (Eq.trans (Eq.symm hb) hb')
  simpa using heq

theorem Holds.ne_of_content (hb : h.Holds a tag content) (hb' : h.Holds b tag' content')
    (hne : content ≠ content') : a ≠ b := by
  rintro rfl
  exact hne (hb.unique hb').2

theorem Keeps.refl : Keeps tag h h := fun _ _ hb => hb

theorem Keeps.trans (h₁ : Keeps tag h h') (h₂ : Keeps tag h' h'') : Keeps tag h h'' :=
  fun a content hb => h₂ a content (h₁ a content hb)

@[simp] theorem holds_alloc_self : (h.alloc a tag content).Holds a tag content := by
  simp [Holds, alloc]

theorem alloc_keeps (hfree : h.isLive a = false) : Keeps tag' h (h.alloc a tag content) := by
  intro b content' hb
  have hne : b ≠ a := by
    rintro rfl
    simp [hb.isLive] at hfree
  simpa [Holds, alloc, Function.update_of_ne hne] using hb

theorem isLive_alloc_of_ne (hne : b ≠ a) :
    (h.alloc a tag content).isLive b = h.isLive b := by
  simp [isLive, alloc, Function.update_of_ne hne]

theorem isLive_alloc (hlive : (h.alloc a tag content).isLive b = true) :
    b = a ∨ h.isLive b = true := by
  by_cases hb : b = a
  · exact .inl hb
  · rw [isLive_alloc_of_ne hb] at hlive
    exact .inr hlive

theorem isLive_free (hlive : (h.free a).isLive b = true) : b ≠ a ∧ h.isLive b = true := by
  have hne : b ≠ a := by
    rintro rfl
    cases hblock : h.block b <;> simp [isLive, free, hblock] at hlive
  refine ⟨hne, ?_⟩
  simpa [isLive, free, Function.update_of_ne hne] using hlive

@[simp] theorem isLive_write : (h.write a content).isLive b = h.isLive b := by
  by_cases hb : b = a
  · subst b
    cases hblock : h.block a <;> simp [isLive, write, hblock]
  · simp [isLive, write, Function.update_of_ne hb]

theorem Holds.write (hb : h.Holds a tag content) :
    (h.write a content').Holds a tag content' := by
  have hblock : h.block a = some ⟨tag, true, content⟩ := hb
  simp [Holds, Heap.write, hblock]

/-- An update of one block of another tag is not seen. -/
theorem update_keeps {f : Block β → Block β} (hb : h.Holds a tag content)
    (hne : tag ≠ tag') :
    Keeps tag' h ⟨Function.update h.block a ((h.block a).map f)⟩ := by
  intro b content' hb'
  have hab : b ≠ a := by
    rintro rfl
    exact hne (hb.unique hb').1
  simpa [Holds, Function.update_of_ne hab] using hb'

theorem Holds.write_keeps (hb : h.Holds a tag content) (hne : tag ≠ tag') :
    Keeps tag' h (h.write a content') :=
  update_keeps hb hne

theorem Holds.free_keeps (hb : h.Holds a tag content) (hne : tag ≠ tag') :
    Keeps tag' h (h.free a) :=
  update_keeps hb hne

theorem Holds.update_of_ne {f : Block β → Block β} (hb : h.Holds b tag content)
    (hne : b ≠ a) :
    Holds ⟨Function.update h.block a ((h.block a).map f)⟩ b tag content := by
  simpa [Holds, Function.update_of_ne hne] using hb

@[simp] theorem residue_free : (h.free a).residue b = h.residue b := by
  by_cases hb : b = a
  · subst b
    cases hblock : h.block a <;> simp [residue, free, hblock]
  · simp [residue, free, Function.update_of_ne hb]

theorem residue_alloc_of_ne (hne : b ≠ a) :
    (h.alloc a tag content).residue b = h.residue b := by
  simp [residue, alloc, Function.update_of_ne hne]

@[simp] theorem residue_alloc_self : (h.alloc a tag content).residue a = some content := by
  simp [residue, alloc]

theorem residue_write_of_ne (hne : b ≠ a) :
    (h.write a content).residue b = h.residue b := by
  simp [residue, write, Function.update_of_ne hne]

theorem residue_write_self (hold : h.residue a = some content') :
    (h.write a content).residue a = some content := by
  cases hblock : h.block a with
  | none => simp [residue, hblock] at hold
  | some block => simp [residue, write, hblock]

end Heap

end Esp32Iot.BlockHeap
