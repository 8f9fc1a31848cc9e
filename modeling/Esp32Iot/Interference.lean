import Mathlib.Logic.Function.Basic

namespace Esp32Iot.Interference

variable {σ α : Type*}

/-- From `s`, the operations end in `post`, whatever `rely` allows the others to
do before each of them and after the last. -/
def Establishes (rely : σ → σ → Prop) (op : α → σ → σ) (post : σ → Prop) :
    List α → σ → Prop
  | [], s => ∀ t, rely s t → post t
  | a :: ops, s => ∀ t, rely s t → Establishes rely op post ops (op a t)

variable {rely : σ → σ → Prop} {op : α → σ → σ} {post : σ → Prop}
variable {ops : List α} {a : α} {s t : σ}

/-- An interference keeps what the remaining operations establish. -/
theorem Establishes.interfere (htrans : ∀ s t u, rely s t → rely t u → rely s u)
    (h : Establishes rely op post ops s) (hrely : rely s t) : Establishes rely op post ops t := by
  cases ops with
  | nil => exact fun u hu => h u (htrans _ _ _ hrely hu)
  | cons a ops => exact fun u hu => h u (htrans _ _ _ hrely hu)

theorem Establishes.perform (hrefl : ∀ s, rely s s)
    (h : Establishes rely op post (a :: ops) s) : Establishes rely op post ops (op a s) :=
  h s (hrefl s)

theorem Establishes.done (hrefl : ∀ s, rely s s) (h : Establishes rely op post [] s) : post s :=
  h s (hrefl s)

end Esp32Iot.Interference
