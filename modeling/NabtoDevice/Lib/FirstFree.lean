import Mathlib.Data.List.Nodup
import Mathlib.Data.List.Perm.Subperm
import Mathlib.Data.List.Range
import Mathlib.Order.Bounds.Basic
import Mathlib.Tactic.Common

/-! The search for the first number that is not taken, counting up from a start by a counter
that has room for finitely many steps. -/

namespace FirstFree

/-- Tries `i + 1`, `i + 2` and so on, `room` numbers in all. -/
def search (taken : ℕ → Bool) : ℕ → ℕ → Option ℕ
  | 0, _ => none
  | room + 1, i => if taken (i + 1) then search taken room (i + 1) else some (i + 1)

variable {taken : ℕ → Bool}

theorem search_eq_none_iff {room i : ℕ} :
    search taken room i = none ↔ ∀ k, i < k → k ≤ i + room → taken k = true := by
  induction room generalizing i with
  | zero => simp only [search, true_iff]; omega
  | succ room ih =>
    unfold search
    split_ifs with h
    · rw [ih]
      constructor
      · intro hall k hlo hhi
        rcases Nat.eq_or_lt_of_le hlo with rfl | hlo
        · exact h
        · exact hall k hlo (by omega)
      · intro hall k hlo hhi
        exact hall k (by omega) (by omega)
    · simp only [false_iff]
      intro hall
      exact h (hall (i + 1) (by omega) (by omega))

/-- The search ends with the least free number. -/
theorem search_eq_some {room i n : ℕ} (h : search taken room i = some n) :
    IsLeast {k | i < k ∧ taken k = false} n := by
  induction room generalizing i with
  | zero => cases h
  | succ room ih =>
    unfold search at h
    split_ifs at h with ht
    · obtain ⟨⟨hlt, hfree⟩, hmin⟩ := ih h
      refine ⟨⟨by omega, hfree⟩, ?_⟩
      rintro k ⟨hk, hkfree⟩
      rcases Nat.eq_or_lt_of_le hk with rfl | hk
      · rw [hkfree] at ht
        cases ht
      · exact hmin ⟨hk, hkfree⟩
    · cases h
      refine ⟨⟨by omega, by simpa using ht⟩, ?_⟩
      rintro k ⟨hk, -⟩
      exact hk

/-- A list leaves one of its length and one more names free. -/
theorem exists_not_mem {α : Type*} {name : ℕ → α} (hname : Function.Injective name) (l : List α) :
    ∃ m, 0 < m ∧ m ≤ l.length + 1 ∧ name m ∉ l := by
  by_contra hall
  simp only [not_exists, not_and, not_not] at hall
  have hsub : (List.range' 1 (l.length + 1)).map name ⊆ l := by
    intro a ha
    obtain ⟨k, hk, rfl⟩ := List.mem_map.mp ha
    rw [List.mem_range'_1] at hk
    exact hall k (by omega) (by omega)
  have hnodup : ((List.range' 1 (l.length + 1)).map name).Nodup :=
    (List.nodup_map_iff hname).mpr List.nodup_range'
  have hle := (List.subperm_of_subset hnodup hsub).length_le
  rw [List.length_map, List.length_range'] at hle
  omega

end FirstFree
