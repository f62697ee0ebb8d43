import Mathlib.Data.List.Nodup
import Mathlib.Data.List.Pairwise
import Mathlib.Tactic.Common

/-! Objects in a list in the order of their numbers. A search finds the object with the smallest
number among those it looks for. -/

namespace Registry

variable {α : Type*} {number : α → ℕ} {l : List α}

/-- The numbers rise along the list. -/
def Ordered (number : α → ℕ) (l : List α) : Prop := l.Pairwise fun a b => number a < number b

theorem Ordered.append (h : Ordered number l) {x : α} (hx : ∀ a ∈ l, number a < number x) :
    Ordered number (l ++ [x]) := by
  refine List.pairwise_append.mpr ⟨h, List.pairwise_singleton _ _, fun a ha b hb => ?_⟩
  rw [List.mem_singleton.mp hb]
  exact hx a ha

theorem Ordered.filter (h : Ordered number l) (p : α → Bool) : Ordered number (l.filter p) :=
  List.Pairwise.filter p h

/-- What a search finds comes before everything else it could have found. -/
theorem Ordered.le_of_find? (h : Ordered number l) {p : α → Bool} {s x : α}
    (hs : l.find? p = some s) (hx : x ∈ l) (hp : p x = true) : number s ≤ number x := by
  obtain ⟨-, before, after, rfl, hbefore⟩ := List.find?_eq_some_iff_append.mp hs
  rcases List.mem_append.mp hx with hmem | hmem
  · have hnot := hbefore x hmem
    rw [hp] at hnot
    cases hnot
  · rcases List.mem_cons.mp hmem with rfl | hmem
    · exact Nat.le_refl _
    · have hrest := (List.pairwise_append.mp h).2.1
      exact Nat.le_of_lt ((List.pairwise_cons.mp hrest).1 x hmem)

theorem Ordered.eq_of_number_eq (h : Ordered number l) {a b : α} (ha : a ∈ l) (hb : b ∈ l)
    (heq : number a = number b) : a = b := by
  have hnodup : (l.map number).Nodup := by
    refine List.pairwise_map.mpr (List.Pairwise.imp ?_ h)
    exact Nat.ne_of_lt
  exact List.inj_on_of_nodup_map hnodup ha hb heq

/-- An object with the smallest number among those looked for is found. -/
theorem Ordered.find?_eq_some (h : Ordered number l) {p : α → Bool} {s : α} (hs : s ∈ l)
    (hp : p s = true) (hfirst : ∀ x ∈ l, p x = true → number s ≤ number x) :
    l.find? p = some s := by
  cases hfind : l.find? p with
  | none => exact absurd hp (List.find?_eq_none.mp hfind s hs)
  | some x =>
    have hle := h.le_of_find? hfind hs hp
    have hge := hfirst x (List.mem_of_find?_eq_some hfind) (List.find?_some hfind)
    rw [h.eq_of_number_eq (List.mem_of_find?_eq_some hfind) hs (Nat.le_antisymm hle hge)]

end Registry
