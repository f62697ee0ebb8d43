import Mathlib.Data.UInt
import Mathlib.Tactic.Common

/-! Times on a 32 bit clock that wraps. Stamps are compared by the sign of their
difference, which is right for times less than half a turn of the clock apart. -/

namespace Stamp

/-- What the clock shows at the time `t`. -/
def ofTime (t : ℕ) : UInt32 := UInt32.ofNat t

/-- The difference as a signed number. -/
def diff (a b : UInt32) : ℤ := (a - b).toBitVec.toInt

theorem diff_eq (a b : UInt32) :
    diff a b = if (a - b).toNat < 2 ^ 31 then ((a - b).toNat : ℤ) else (a - b).toNat - 2 ^ 32 := by
  rw [diff, BitVec.toInt_eq_toNat_cond]
  have hnat : (a - b).toBitVec.toNat = (a - b).toNat := rfl
  split_ifs <;> omega

theorem diff_lt (a b : UInt32) : diff a b < 2 ^ 31 := by
  have hlt := (a - b).toNat_lt
  rw [diff_eq]
  split_ifs <;> omega

theorem neg_le_diff (a b : UInt32) : -2 ^ 31 ≤ diff a b := by
  rw [diff_eq]
  split_ifs <;> omega

theorem ofTime_add (t k : ℕ) : ofTime (t + k) = ofTime t + ofTime k := by
  simp [ofTime]

/-- Within a turn of the clock stamps tell how much time has passed. -/
theorem toNat_ofTime_sub {t u : ℕ} (hle : t ≤ u) (hlt : u < t + 2 ^ 32) :
    (ofTime u - ofTime t).toNat = u - t := by
  have hu : (ofTime u).toNat = u % 2 ^ 32 := UInt32.toNat_ofNat
  have ht : (ofTime t).toNat = t % 2 ^ 32 := UInt32.toNat_ofNat
  rw [UInt32.toNat_sub, hu, ht]
  omega

/-- A stamp that is not in the past is that of the time so far ahead. -/
theorem ofTime_add_diff {a : UInt32} {t : ℕ} (h : 0 ≤ diff a (ofTime t)) :
    ofTime (t + (diff a (ofTime t)).toNat) = a := by
  rw [diff_eq] at h ⊢
  split_ifs at h ⊢ with hahead
  · simp [ofTime]
  · have hlt := (a - ofTime t).toNat_lt
    omega

/-- `a` comes before the stamp `c` after `b`, where `c` is at most half a turn: it is less
than `c` after `b`, or so far after it that the clock has turned. -/
theorem diff_add_neg_iff (a b c : UInt32) (hc : c.toNat ≤ 2 ^ 31) :
    diff a (b + c) < 0 ↔ (a - b).toNat < c.toNat ∨ c.toNat + 2 ^ 31 ≤ (a - b).toNat := by
  have hsub : a - (b + c) = a - b - c := sub_add_eq_sub_sub a b c
  have hlt := (a - b).toNat_lt
  rw [diff_eq, hsub, UInt32.toNat_sub]
  split_ifs <;> omega

/-- How far `a` comes after `base` on the clock. -/
def offset (base a : UInt32) : ℕ := (a - base).toNat

/-- Within half a turn of the clock the sign of the difference is the order of the times. -/
theorem diff_nonpos_iff {base a b : UInt32} (ha : offset base a < 2 ^ 31)
    (hb : offset base b < 2 ^ 31) : diff a b ≤ 0 ↔ offset base a ≤ offset base b := by
  have hsub : a - b = (a - base) - (b - base) := (sub_sub_sub_cancel_right a b base).symm
  unfold offset at *
  rw [diff_eq, hsub, UInt32.toNat_sub]
  split_ifs <;> omega

end Stamp
