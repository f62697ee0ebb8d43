import Mathlib.Data.Int.ModEq
import Mathlib.Data.Nat.Prime.Int
import Mathlib.GroupTheory.OrderOfElement
import Mathlib.SetTheory.Cardinal.Finite
import Mathlib.Tactic.Module

/-! A password-authenticated key exchange in a group of prime order. Each side blinds its share
with a multiple of a fixed point, and the multiple is the password. The shares unblind to the same
key exactly if the passwords agree modulo the order. -/

structure PasswordGroup (A : Type*) [AddCommGroup A] where
  n : ℕ
  G : A
  M : A
  N : A
  prime : n.Prime
  card : Nat.card A = n
  generates : ∀ a : A, a ∈ AddSubgroup.zmultiples G

namespace PasswordGroup

variable {A : Type*} [AddCommGroup A] (P : PasswordGroup A)

def initiatorShare (x w : ℤ) : A := x • P.G + w • P.M

def responderShare (y w : ℤ) : A := y • P.G + w • P.N

def initiatorKey (x w : ℤ) (S : A) : A := x • (S - w • P.N)

def responderKey (y w : ℤ) (T : A) : A := y • (T - w • P.M)

theorem card_zsmul (a : A) : (P.n : ℤ) • a = 0 := by
  rw [natCast_zsmul, ← P.card]
  exact card_nsmul_eq_zero'

/-- Multiples are taken modulo the order. -/
theorem emod_zsmul (k : ℤ) (a : A) : (k % P.n) • a = k • a := by
  conv_rhs => rw [← Int.emod_add_mul_ediv k P.n, add_zsmul, mul_comm, mul_zsmul, P.card_zsmul,
    zsmul_zero, add_zero]

theorem zsmul_eq_zero_iff {a : A} (ha : a ≠ 0) (k : ℤ) : k • a = 0 ↔ (P.n : ℤ) ∣ k := by
  have horder : addOrderOf a = P.n := by
    have hdvd : addOrderOf a ∣ P.n := by
      rw [← P.card]
      exact addOrderOf_dvd_natCard a
    rcases (Nat.dvd_prime P.prime).mp hdvd with h1 | hn
    · exact absurd (AddMonoid.addOrderOf_eq_one_iff.mp h1) ha
    · exact hn
  rw [← addOrderOf_dvd_iff_zsmul_eq_zero, horder]

theorem responderKey_initiatorShare (x y w : ℤ) :
    P.responderKey y w (P.initiatorShare x w) = (x * y) • P.G := by
  unfold responderKey initiatorShare
  module

theorem initiatorKey_responderShare (x y w : ℤ) :
    P.initiatorKey x w (P.responderShare y w) = (x * y) • P.G := by
  unfold initiatorKey responderShare
  module

/-- A share that was blinded with another password does not unblind. -/
theorem responderKey_ne {x y w w' : ℤ} (hw : ¬ w' ≡ w [ZMOD P.n]) (hM : P.M ≠ 0)
    (hy : ¬ y ≡ 0 [ZMOD P.n]) :
    P.responderKey y w (P.initiatorShare x w') ≠ (x * y) • P.G := by
  have hsplit : P.responderKey y w (P.initiatorShare x w') =
      (x * y) • P.G + (y * (w' - w)) • P.M := by
    unfold responderKey initiatorShare
    module
  intro heq
  rw [hsplit, add_eq_left, P.zsmul_eq_zero_iff hM] at heq
  rcases (Nat.prime_iff_prime_int.mp P.prime).dvd_or_dvd heq with hdvd | hdvd
  · exact hy (Int.modEq_zero_iff_dvd.mpr hdvd)
  · exact hw (Int.modEq_iff_dvd.mpr hdvd).symm

end PasswordGroup
