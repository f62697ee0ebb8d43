import NabtoDevice.Lib.Positional
import NabtoDevice.Proofs.CalculateKey
import Mathlib.Data.Nat.Digits.Lemmas

/-! The transcript of the key exchange is unambiguous: every part has its length in front, so that
equal transcripts have equal parts. -/

namespace NabtoDevice

variable {A : Type} [AddCommGroup A]

/-- `mbedtls_mpi_write_binary` with the length `mbedtls_mpi_size`: big-endian without leading zeros,
and no byte at all for zero. -/
def mpiBytes (n : ℕ) : List UInt8 := (Nat.digits 256 n).reverse.map UInt8.ofNat

@[ext] structure Exchange (A : Type) where
  fingerprintClient : List UInt8
  fingerprintDevice : List UInt8
  T : A
  S : A
  K : A
  w : ℕ
  clientLength : fingerprintClient.length = 32
  deviceLength : fingerprintDevice.length = 32
  wLt : w < 2 ^ 256

def Exchange.hashed (P : Spake2Params A) (env : ExchangeEnv A) (e : Exchange A) : List UInt8 :=
  hashedTranscript P env e.fingerprintClient e.fingerprintDevice e.T e.S e.K e.w

theorem lengthBytes_value {n : ℕ} (h : n < 2 ^ 32) :
    Positional.value 256 ((lengthBytes n).map UInt8.toNat) = n := by
  simp only [lengthBytes, Positional.value, List.map_cons, List.map_nil, List.foldl_cons,
    List.foldl_nil, UInt8.toNat_ofNat']
  omega

theorem frame_append_inj {a b s t : List UInt8} (ha : a.length < 2 ^ 32) (hb : b.length < 2 ^ 32)
    (h : frame a ++ s = frame b ++ t) : a = b ∧ s = t := by
  simp only [frame, List.append_assoc] at h
  obtain ⟨hlength, hrest⟩ := List.append_inj h rfl
  have hlen : a.length = b.length := by
    rw [← lengthBytes_value ha, hlength, lengthBytes_value hb]
  exact List.append_inj hrest hlen

theorem mpiBytes_value (n : ℕ) : Positional.value 256 ((mpiBytes n).map UInt8.toNat) = n := by
  have hdigits : (mpiBytes n).map UInt8.toNat = (Nat.digits 256 n).reverse := by
    rw [mpiBytes, List.map_map]
    refine (List.map_congr_left fun d hd => ?_).trans (List.map_id _)
    exact UInt8.toNat_ofNat_of_lt' (Nat.digits_lt_base (by decide) (List.mem_reverse.mp hd))
  rw [hdigits, Positional.value_reverse, Nat.ofDigits_digits]

theorem mpiBytes_length {n : ℕ} (h : n < 2 ^ 256) : (mpiBytes n).length ≤ 32 := by
  rw [mpiBytes, List.length_map, List.length_reverse, Nat.digits_length_le_iff (by decide)]
  rwa [show 256 ^ 32 = 2 ^ 256 from by norm_num]

/-- Two exchanges whose calls succeed hash the same bytes exactly if they agree in both
fingerprints, the three points and the password hash. -/
theorem hashedTranscript_determines (P : Spake2Params A) (hpoint : Function.Injective P.writePoint)
    (hsize : ∀ p, (P.writePoint p).length ≤ 256) (hmpi : ∀ n : ℕ, P.writeMpi n = mpiBytes n)
    (env₁ env₂ : ExchangeEnv A) (h₁ : ∀ call, env₁.ok call = true)
    (h₂ : ∀ call, env₂.ok call = true)
    (e₁ e₂ : Exchange A) : e₁.hashed P env₁ = e₂.hashed P env₂ ↔ e₁ = e₂ := by
  have hshort (e : Exchange A) : (P.writeMpi e.w).length ≤ 32 := by
    rw [hmpi]
    exact mpiBytes_length e.wLt
  have hhashed (env : ExchangeEnv A) (h : ∀ call, env.ok call = true) (e : Exchange A) :
      e.hashed P env = transcript P e.fingerprintClient e.fingerprintDevice e.T e.S e.K e.w :=
    hashedTranscript_of_ok (fun call _ => h call) ((hshort e).trans (by decide))
  have hpart (p : A) : (P.writePoint p).length < 2 ^ 32 := (hsize p).trans_lt (by decide)
  rw [hhashed env₁ h₁, hhashed env₂ h₂]
  constructor
  · intro h
    -- The parts are taken off the front one by one.
    simp only [transcript, List.append_assoc] at h
    obtain ⟨hclient, h⟩ :=
      frame_append_inj (by rw [e₁.clientLength]; decide) (by rw [e₂.clientLength]; decide) h
    obtain ⟨hdevice, h⟩ :=
      frame_append_inj (by rw [e₁.deviceLength]; decide) (by rw [e₂.deviceLength]; decide) h
    obtain ⟨hT, h⟩ := frame_append_inj (hpart _) (hpart _) h
    obtain ⟨hS, h⟩ := frame_append_inj (hpart _) (hpart _) h
    obtain ⟨hK, h⟩ := frame_append_inj (hpart _) (hpart _) h
    obtain ⟨hw, -⟩ :=
      frame_append_inj ((hshort e₁).trans_lt (by decide)) ((hshort e₂).trans_lt (by decide))
      (congrArg (· ++ []) h)
    have hwEq : e₁.w = e₂.w := by
      rw [← mpiBytes_value e₁.w, ← hmpi, hw, hmpi, mpiBytes_value]
    exact Exchange.ext hclient hdevice (hpoint hT) (hpoint hS) (hpoint hK) hwEq
  · rintro rfl
    rfl

/-- Exchanges over the integers modulo 11 that differ in the password hash only. -/
theorem hashedTranscript_determines_small :
    let P : Spake2Params (ZMod 11) := { smallParams with writeMpi := fun w => mpiBytes w.toNat }
    let e (w : ℕ) (hw : w < 2 ^ 256) : Exchange (ZMod 11) :=
      ⟨List.replicate 32 1, List.replicate 32 2, 3, 4, 5, w, rfl, rfl, hw⟩
    (e 0 (by decide)).hashed P succeedingEnv ≠ (e 256 (by decide)).hashed P succeedingEnv := by
  intro P e h
  have heq := (hashedTranscript_determines P (by decide) (fun _ => Nat.le_of_ble_eq_true rfl)
    (fun _ => rfl) succeedingEnv
    succeedingEnv (fun _ => rfl) (fun _ => rfl) _ _).mp h
  exact absurd (congrArg Exchange.w heq) (by decide)

end NabtoDevice
