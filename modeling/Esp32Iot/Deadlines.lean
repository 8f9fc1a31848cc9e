import Mathlib.Data.Set.Insert
import Mathlib.Data.UInt

/-!
Deadlines kept with an unsigned clock. Times are noted down, and later the clock is
compared with the newest of them. As long as the clock does not run backwards, the
difference is no wrapped one, and the comparison speaks of all the notes.
-/

namespace Esp32Iot.Deadlines

/-- `noted` is the newest of the notes, and none of them lies ahead of the clock. -/
structure Noted (notes : Set UInt64) (noted now : UInt64) : Prop where
  member : noted ∈ notes
  newest : ∀ t ∈ notes, t ≤ noted
  past : noted ≤ now

variable {notes : Set UInt64} {noted now tick d : UInt64}

theorem Noted.later (h : Noted notes noted now) (hnow : now ≤ tick) : Noted notes noted tick where
  member := h.member
  newest := h.newest
  past := UInt64.le_trans h.past hnow

theorem noted_insert (hpast : ∀ t ∈ notes, t ≤ tick) : Noted (insert tick notes) tick tick where
  member := Set.mem_insert tick notes
  newest := by
    rintro t (rfl | ht)
    · exact UInt64.le_refl t
    · exact hpast t ht
  past := UInt64.le_refl tick

theorem Noted.insert (h : Noted notes noted now) (hnow : now ≤ tick) :
    Noted (insert tick notes) tick tick := by
  apply noted_insert
  intro t ht
  exact UInt64.le_trans (h.newest t ht) (UInt64.le_trans h.past hnow)

theorem Noted.elapsed (h : Noted notes noted tick) :
    (tick - noted).toNat = tick.toNat - noted.toNat :=
  UInt64.toNat_sub_of_le tick noted h.past

/-- The deadline is over exactly when every note is older than that. -/
theorem Noted.expired_iff (h : Noted notes noted tick) :
    tick - noted > d ↔ ∀ t ∈ notes, t.toNat + d.toNat < tick.toNat := by
  have helapsed := h.elapsed
  have hpast : noted.toNat ≤ tick.toNat := h.past
  constructor
  · intro hexpired t ht
    have hgt : d.toNat < (tick - noted).toNat := hexpired
    have hle : t.toNat ≤ noted.toNat := h.newest t ht
    omega
  · intro hall
    have hnoted := hall noted h.member
    show d.toNat < (tick - noted).toNat
    omega

theorem Noted.pending (h : Noted notes noted tick) (hnot : ¬ tick - noted > d) :
    tick.toNat ≤ noted.toNat + d.toNat := by
  have helapsed := h.elapsed
  have hle : ¬ d.toNat < (tick - noted).toNat := hnot
  omega

end Esp32Iot.Deadlines
