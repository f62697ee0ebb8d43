import Mathlib.Data.Nat.Digits.Defs
import Mathlib.Data.UInt
import Mathlib.Tactic.Common

/-! What an unsigned integer that is loaded from memory is worth on hosts of both byte orders. -/

inductive ByteOrder
  | big
  | little
  deriving DecidableEq, Repr

namespace ByteOrder

def load : ByteOrder → List UInt8 → ℕ
  | .big, bytes => Nat.ofDigits 256 (bytes.reverse.map UInt8.toNat)
  | .little, bytes => Nat.ofDigits 256 (bytes.map UInt8.toNat)

theorem ofDigits_toNat_lt (bytes : List UInt8) :
    Nat.ofDigits 256 (bytes.map UInt8.toNat) < 256 ^ bytes.length := by
  have hdigit : ∀ d ∈ bytes.map UInt8.toNat, d < 256 := by
    intro d hd
    obtain ⟨b, -, rfl⟩ := List.mem_map.mp hd
    exact b.toNat_lt
  have hlt := Nat.ofDigits_lt_base_pow_length (by omega) hdigit
  rw [List.length_map] at hlt
  exact hlt

theorem load_lt (order : ByteOrder) (bytes : List UInt8) :
    order.load bytes < 256 ^ bytes.length := by
  cases order with
  | big =>
    have hlt := ofDigits_toNat_lt bytes.reverse
    rw [List.length_reverse] at hlt
    exact hlt
  | little => exact ofDigits_toNat_lt bytes

/-- A fact about the 256 bytes one by one. -/
theorem forall_byte {p : UInt8 → Prop} (h : ∀ n < 256, p (UInt8.ofNat n)) (b : UInt8) : p b := by
  have hb := h b.toNat b.toNat_lt
  rwa [UInt8.ofNat_toNat] at hb

end ByteOrder
