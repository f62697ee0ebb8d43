import NabtoDevice.Lib.ByteOrder
import NabtoDevice.Lib.Positional
import NabtoDevice.Spec.Packet
import Mathlib.Tactic.IntervalCases

/-! The variable length integers of packet headers: what was written is read back, whatever
follows it, and what is read is written in no more bytes. -/

namespace NabtoDevice

variable {buf : List UInt8}

def announcedLength (first : UInt8) : ℕ := 2 ^ (first >>> 6).toNat

/-- The first byte is made of the length bits and the upper bits of the value. -/
theorem first_byte : ∀ k : Fin 4, ∀ b : UInt8, b.toNat < 64 →
    ((b ||| UInt8.ofNat (k * 64)) >>> 6).toNat = k ∧
      ((b ||| UInt8.ofNat (k * 64)) &&& 0x3F) = b := by
  intro k
  apply ByteOrder.forall_byte
  revert k
  decide +kernel

theorem length_bits (first : UInt8) : (first >>> 6).toNat < 4 ∧ (first &&& 0x3F).toNat < 64 := by
  revert first
  apply ByteOrder.forall_byte
  decide +kernel

theorem varUintRead_cons (first : UInt8) (rest : List UInt8) :
    varUintRead (first :: rest) =
      if rest.length + 1 < announcedLength first then none
      else some (Positional.value 256
        ((first &&& 0x3F).toNat :: (rest.take (announcedLength first - 1)).map UInt8.toNat),
          announcedLength first) := by
  rw [varUintRead, Positional.value, List.foldl_cons, List.foldl_map, Nat.zero_mul, Nat.zero_add]
  rfl

/-- Bytes with the length bits in the first one are read back before any rest. -/
theorem varUintRead_of_class (k : Fin 4) {b bits : UInt8} {bytes : List UInt8} {n : ℕ}
    (hbits : bits = UInt8.ofNat (k * 64)) (hb : b.toNat < 64) (hlen : bytes.length + 1 = 2 ^ k.val)
    (hvalue : Positional.value 256 (b.toNat :: bytes.map UInt8.toNat) = n) (s : List UInt8) :
    varUintRead ((b ||| bits) :: bytes ++ s) = some (n, bytes.length + 1) := by
  obtain ⟨hlength, hupper⟩ := first_byte k b hb
  rw [← hbits] at hlength hupper
  rw [List.cons_append, varUintRead_cons, announcedLength, hlength, hupper, if_neg (by simp; omega),
    List.take_left' (by omega), hvalue, hlen]

theorem toNat_byte (val : UInt64) (i : UInt64) (hi : i.toNat < 64) :
    (val >>> i).toUInt8.toNat = val.toNat / 2 ^ i.toNat % 256 := by
  rw [UInt64.toNat_toUInt8, UInt64.toNat_shiftRight, Nat.mod_eq_of_lt hi, Nat.shiftRight_eq_div_pow]

theorem write_classes (val : UInt64) :
    (val < (1 : UInt64) <<< 6 ↔ val.toNat < 2 ^ 6) ∧
      (val < (1 : UInt64) <<< 14 ↔ val.toNat < 2 ^ 14) ∧
      (val < (1 : UInt64) <<< 30 ↔ val.toNat < 2 ^ 30) := ⟨Iff.rfl, Iff.rfl, Iff.rfl⟩

theorem varUintRead_write {val : UInt64} (hval : val.toNat < 2 ^ 62) (s : List UInt8) :
    varUintRead (varUintWriteForward val ++ s) =
      some (val.toNat, (varUintWriteForward val).length) := by
  have hb7 : val.toUInt8.toNat = val.toNat % 256 := UInt64.toNat_toUInt8 val
  have hb6 : (val >>> 8).toUInt8.toNat = val.toNat / 2 ^ 8 % 256 := toNat_byte val 8 (by decide)
  have hb5 : (val >>> 16).toUInt8.toNat = val.toNat / 2 ^ 16 % 256 := toNat_byte val 16 (by decide)
  have hb4 : (val >>> 24).toUInt8.toNat = val.toNat / 2 ^ 24 % 256 := toNat_byte val 24 (by decide)
  have hb3 : (val >>> 32).toUInt8.toNat = val.toNat / 2 ^ 32 % 256 := toNat_byte val 32 (by decide)
  have hb2 : (val >>> 40).toUInt8.toNat = val.toNat / 2 ^ 40 % 256 := toNat_byte val 40 (by decide)
  have hb1 : (val >>> 48).toUInt8.toNat = val.toNat / 2 ^ 48 % 256 := toNat_byte val 48 (by decide)
  have hb0 : (val >>> 56).toUInt8.toNat = val.toNat / 2 ^ 56 % 256 := toNat_byte val 56 (by decide)
  -- One case for each length; in each the value leaves room for the length bits.
  simp only [varUintWriteForward, write_classes]
  split_ifs with h6 h14 h30
  · have hvalue : Positional.value 256 (val.toUInt8.toNat :: ([] : List UInt8).map UInt8.toNat) =
        val.toNat := by
      simp [Positional.value, hb7]; omega
    have hread := varUintRead_of_class 0 rfl (by omega) rfl hvalue s
    simpa using hread
  · exact varUintRead_of_class 1 (by decide) (by omega) rfl
      (by simp [Positional.value, hb6, hb7]; omega) s
  · exact varUintRead_of_class 2 (by decide) (by omega) rfl
      (by simp [Positional.value, hb4, hb5, hb6, hb7]; omega) s
  · refine varUintRead_of_class 3 (by decide) (by omega) rfl ?_ s
    simp only [Positional.value, List.map_cons, List.map_nil, List.foldl_cons, List.foldl_nil, hb0,
      hb1, hb2, hb3, hb4, hb5, hb6, hb7]
    omega

/-- What is read fits the bits behind the length bits. -/
theorem varUintRead_eq_some {val len : ℕ} (h : varUintRead buf = some (val, len)) :
    len ≤ buf.length ∧ ∃ k < 4, len = 2 ^ k ∧ val < 2 ^ (8 * len - 2) := by
  cases buf with
  | nil => cases h
  | cons first rest =>
    rw [varUintRead_cons] at h
    split_ifs at h with hshort
    cases h
    obtain ⟨hbits, hupper⟩ := length_bits first
    have hpos : 0 < announcedLength first := Nat.two_pow_pos _
    have hdigit : ∀ d ∈ (rest.take (announcedLength first - 1)).map UInt8.toNat, d < 256 := by
      intro d hd
      obtain ⟨b, -, rfl⟩ := List.mem_map.mp hd
      exact b.toNat_lt
    have hrest := Positional.value_lt hdigit
    have hlen : ((rest.take (announcedLength first - 1)).map UInt8.toNat).length =
        announcedLength first - 1 := by
      rw [List.length_map, List.length_take]
      omega
    refine ⟨by rw [List.length_cons]; omega, _, hbits, rfl, ?_⟩
    rw [hlen] at hrest
    rw [Positional.value_cons, hlen]
    calc (first &&& 0x3F).toNat * 256 ^ (announcedLength first - 1) + _
        < (first &&& 0x3F).toNat * 256 ^ (announcedLength first - 1) +
          256 ^ (announcedLength first - 1) :=
          Nat.add_lt_add_left hrest _
      _ = ((first &&& 0x3F).toNat + 1) * 256 ^ (announcedLength first - 1) :=
        (Nat.succ_mul _ _).symm
      _ ≤ 2 ^ 6 * 256 ^ (announcedLength first - 1) := Nat.mul_le_mul_right _ hupper
      _ = 2 ^ (8 * announcedLength first - 2) := by
        rw [show 256 = 2 ^ 8 from rfl, ← pow_mul, ← pow_add]
        congr 1
        omega

theorem varUintWriteForward_length_le {val : UInt64} {k : ℕ} (hk : k < 4)
    (hval : val.toNat < 2 ^ (8 * 2 ^ k - 2)) : (varUintWriteForward val).length ≤ 2 ^ k := by
  simp only [varUintWriteForward, write_classes]
  interval_cases k <;> split_ifs <;> simp <;> omega

/-- Values below `2 ^ 62` are read as they were written, with their length, whatever follows. What
is read lies within the buffer and below `2 ^ 62`, and is written in no more bytes. The reader fails
exactly on buffers that are shorter than announced. -/
theorem varUint_sound :
    (∀ (v : UInt64) (s : List UInt8), v.toNat < 2 ^ 62 →
      varUintRead (varUintWriteForward v ++ s) = some (v.toNat, (varUintWriteForward v).length)) ∧
    (∀ buf val len, varUintRead buf = some (val, len) →
      len ∈ [1, 2, 4, 8] ∧ len ≤ buf.length ∧ val < 2 ^ 62 ∧
        (varUintWriteForward (UInt64.ofNat val)).length ≤ len) ∧
    ∀ first rest, varUintRead (first :: rest) = none ↔
      (first :: rest).length < announcedLength first := by
  refine ⟨fun v s hv => varUintRead_write hv s, fun buf val len h => ?_, fun first rest => ?_⟩
  · obtain ⟨hle, k, hk, rfl, hval⟩ := varUintRead_eq_some h
    have hclass : 2 ^ k ∈ [1, 2, 4, 8] := by
      interval_cases k <;> decide
    have hsmall : val < 2 ^ 62 := by
      refine Nat.lt_of_lt_of_le hval (Nat.pow_le_pow_right (by decide) ?_)
      interval_cases k <;> decide
    refine ⟨hclass, hle, hsmall, varUintWriteForward_length_le hk ?_⟩
    rwa [UInt64.toNat_ofNat_of_lt' (Nat.lt_trans hsmall (by decide))]
  · rw [varUintRead_cons, List.length_cons]
    split_ifs with hshort <;> simp [hshort]

end NabtoDevice
