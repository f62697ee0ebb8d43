import Mathlib.Data.Nat.Digits.Defs
import Mathlib.Tactic.Ring

/-! Numbers in positional notation, the first digit counting most. -/

namespace Positional

def value (base : ℕ) (digits : List ℕ) : ℕ := digits.foldl (fun n d => n * base + d) 0

variable {base : ℕ} {digits : List ℕ}

/-- A reader that has read `n` so far and goes on with more digits. -/
theorem foldl_eq (n : ℕ) (digits : List ℕ) :
    digits.foldl (fun n d => n * base + d) n = n * base ^ digits.length + value base digits := by
  induction digits generalizing n with
  | nil => simp [value]
  | cons d digits ih =>
    simp only [value, List.foldl_cons, List.length_cons]
    rw [ih (n * base + d), ih (0 * base + d)]
    ring

theorem value_cons (d : ℕ) (digits : List ℕ) :
    value base (d :: digits) = d * base ^ digits.length + value base digits := by
  rw [value, List.foldl_cons, foldl_eq, Nat.zero_mul, Nat.zero_add]

theorem value_append (more : List ℕ) :
    value base (digits ++ more) = value base digits * base ^ more.length + value base more := by
  rw [value, List.foldl_append, foldl_eq, ← value]

theorem value_reverse (digits : List ℕ) : value base digits.reverse = Nat.ofDigits base digits := by
  induction digits with
  | nil => rfl
  | cons d digits ih =>
    rw [List.reverse_cons, value_append, ih, Nat.ofDigits_cons]
    simp [value]
    ring

theorem value_lt (h : ∀ d ∈ digits, d < base) : value base digits < base ^ digits.length := by
  induction digits with
  | nil => simp [value]
  | cons d digits ih =>
    have hd : d + 1 ≤ base := h d List.mem_cons_self
    have hrest := ih fun e he => h e (List.mem_cons_of_mem d he)
    rw [value_cons, List.length_cons, pow_succ']
    calc d * base ^ digits.length + value base digits
        < (d + 1) * base ^ digits.length := by rw [Nat.succ_mul]; omega
      _ ≤ base * base ^ digits.length := Nat.mul_le_mul_right _ hd

/-- Two digits in front of an even number of digits are one digit to the squared base. -/
theorem value_pair (d e : ℕ) (digits : List ℕ) {pairs : List ℕ}
    (hlen : digits.length = 2 * pairs.length) :
    value base (d :: e :: digits) = (d * base + e) * (base ^ 2) ^ pairs.length +
      value base digits := by
  rw [value_cons, value_cons, List.length_cons, hlen, ← pow_mul]
  ring

end Positional
