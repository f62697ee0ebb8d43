import Mathlib.Data.List.Basic
import Mathlib.Tactic.Common

/-! Two lists taken in turns, and filling up a list of bounded length. -/

namespace Alternation

open List

variable {α : Type*}

/-- The elements of the two lists in turns, beginning with the first list; when one list has
ended the other goes on. -/
def alternate : List α → List α → List α
  | [], ys => ys
  | xs, [] => xs
  | x :: xs, y :: ys => x :: y :: alternate xs ys

@[simp] theorem alternate_nil_left (ys : List α) : alternate [] ys = ys := by
  cases ys <;> rfl

@[simp] theorem alternate_nil_right (xs : List α) : alternate xs [] = xs := by
  cases xs <;> rfl

theorem length_alternate (xs ys : List α) : (alternate xs ys).length = xs.length + ys.length := by
  induction xs generalizing ys with
  | nil => rw [alternate_nil_left, length_nil, Nat.zero_add]
  | cons x xs ih =>
    cases ys with
    | nil => rfl
    | cons y ys =>
      rw [alternate, length_cons, length_cons, ih, length_cons, length_cons]
      omega

/-- What the elements at one more index add. -/
theorem alternate_take_succ (xs ys : List α) (k : ℕ) :
    alternate (xs.take (k + 1)) (ys.take (k + 1)) =
      alternate (xs.take k) (ys.take k) ++ xs[k]?.toList ++ ys[k]?.toList := by
  induction k generalizing xs ys with
  | zero => cases xs <;> cases ys <;> simp [alternate]
  | succ k ih =>
    cases xs with
    | nil => simp [take_add_one]
    | cons x xs =>
      cases ys with
      | nil => simp [take_add_one]
      | cons y ys => simp only [take_succ_cons, alternate, ih, getElem?_cons_succ, cons_append]

/-- An element is added at the end of a list as long as it has less than `n` elements: the
list is then always the start of what it would be without a bound. -/
theorem take_append_toList (l : List α) (a : Option α) (n : ℕ) :
    (if (l.take n).length < n then l.take n ++ a.toList else l.take n) =
      (l ++ a.toList).take n := by
  have ha : a.toList.length ≤ 1 := by cases a <;> simp
  split_ifs with h
  · have hl : l.length < n := by
      rw [length_take] at h
      omega
    rw [take_of_length_le (Nat.le_of_lt hl), take_of_length_le]
    rw [length_append]
    omega
  · have hl : n ≤ l.length := by
      rw [length_take] at h
      omega
    rw [take_append_of_le_length hl]

end Alternation
