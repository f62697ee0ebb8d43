import Mathlib.Algebra.Order.Group.Nat
import Mathlib.Algebra.Ring.Nat
import Mathlib.Data.List.Basic
import Mathlib.Tactic.Common

/-! Totals over a list of parties, and how they change with one of them. -/

namespace Tally

variable {α : Type*}

variable (f : α → ℕ) {l : List α} {k : ℕ} {a : α}

/-- The total after the party at `k` was replaced; the others are those left without it. -/
theorem sum_map_set (h : l[k]? = some a) (a' : α) :
    ((l.set k a').map f).sum = ((l.eraseIdx k).map f).sum + f a' := by
  induction l generalizing k with
  | nil => simp at h
  | cons head tail ih =>
    cases k with
    | zero =>
      simp only [List.set_cons_zero, List.eraseIdx_cons_zero, List.map_cons, List.sum_cons]
      omega
    | succ k =>
      have htail := ih (k := k) h
      simp only [List.set_cons_succ, List.eraseIdx_cons_succ, List.map_cons, List.sum_cons]
      omega

theorem sum_map_split (h : l[k]? = some a) : (l.map f).sum = ((l.eraseIdx k).map f).sum + f a := by
  obtain ⟨hlt, rfl⟩ := List.getElem?_eq_some_iff.mp h
  rw [← sum_map_set f h, List.set_getElem_self]

theorem sum_map_modify (h : l[k]? = some a) (g : α → α) :
    ((l.modify k g).map f).sum = ((l.eraseIdx k).map f).sum + f (g a) := by
  rw [List.modify_eq_set_getElem?, h]
  exact sum_map_set f h (g a)

end Tally
