import NabtoDevice.Lib.ByteOrder
import NabtoDevice.Lib.Positional
import NabtoDevice.Spec.Hex

/-! The hexadecimal reader accepts the numbers in hexadecimal notation that fill the data, and
writes them in big-endian byte order. Reader and writer are inverse up to the case of the digits. -/

namespace NabtoDevice

def lowerCase (c : UInt8) : UInt8 := if 65 ≤ c ∧ c ≤ 90 then c + 32 else c

def hexDigits : List UInt8 := [48, 49, 50, 51, 52, 53, 54, 55, 56, 57, 97, 98, 99, 100, 101, 102]

def IsHexDigit (c : UInt8) : Prop := lowerCase c ∈ hexDigits

def hexDigitValue (c : UInt8) : ℕ := hexDigits.idxOf (lowerCase c)

def hexNumber (hex : List UInt8) : ℕ := Positional.value 16 (hex.map hexDigitValue)

def bigEndian (data : List UInt8) : ℕ := Positional.value 256 (data.map UInt8.toNat)

instance (c : UInt8) : Decidable (IsHexDigit c) := inferInstanceAs (Decidable (_ ∈ _))

theorem hexValue_eq (c : UInt8) :
    hexValue c = if IsHexDigit c then some (UInt8.ofNat (hexDigitValue c)) else none := by
  revert c
  apply ByteOrder.forall_byte
  decide +kernel

theorem hexDigitValue_lt {c : UInt8} (h : IsHexDigit c) : hexDigitValue c < 16 :=
  List.idxOf_lt_length_iff.mpr h

def packed : List UInt8 → List UInt8
  | c₁ :: c₂ :: hex =>
    (UInt8.ofNat (hexDigitValue c₁) <<< 4 + UInt8.ofNat (hexDigitValue c₂)) :: packed hex
  | _ => []

variable {hex : List UInt8}

theorem hexLoop_succeeds_iff (hex : List UInt8) (index : ℕ) (data : List UInt8) :
    (hexLoop hex index data).1 = true ↔ ∀ c ∈ hex, IsHexDigit c := by
  induction hex generalizing index data with
  | nil => simp [hexLoop]
  | cons c hex ih =>
    rw [hexLoop, hexValue_eq]
    by_cases hc : IsHexDigit c
    · simp [hc, ih]
    · simp [hc]

theorem modify_behind (done rest : List UInt8) (f : UInt8 → UInt8) (b : UInt8) {i : ℕ}
    (hi : i = done.length) : (done ++ b :: rest).modify i f = done ++ f b :: rest := by
  subst hi
  induction done with
  | nil => rfl
  | cons d done ih => simp [ih]

theorem pairs_induction {P : ∀ hex : List UInt8, hex.length % 2 = 0 → Prop} (nil : P [] rfl)
    (pair : ∀ c₁ c₂ hex heven heven', P hex heven → P (c₁ :: c₂ :: hex) heven') :
    ∀ hex heven, P hex heven
  | [], _ => nil
  | [_], h => absurd h (by simp)
  | c₁ :: c₂ :: hex, h => by
    have heven : hex.length % 2 = 0 := by simp only [List.length_cons] at h; omega
    exact pair c₁ c₂ hex heven h (pairs_induction nil pair hex heven)

/-- From an even index on, every two digits fill the next byte. -/
theorem hexLoop_even (heven : hex.length % 2 = 0) (hhex : ∀ c ∈ hex, IsHexDigit c)
    (done : List UInt8) :
    hexLoop hex (2 * done.length) (done ++ List.replicate (hex.length / 2) 0) =
      (true, done ++ packed hex) := by
  induction hex, heven using pairs_induction generalizing done with
  | nil => simp [hexLoop, packed]
  | pair c₁ c₂ hex heven _ ih =>
    have h₁ : IsHexDigit c₁ := hhex _ (by simp)
    have h₂ : IsHexDigit c₂ := hhex _ (by simp)
    have hstep := ih (fun c hc => hhex c (by simp [hc]))
      (done ++ [UInt8.ofNat (hexDigitValue c₁) <<< 4 + UInt8.ofNat (hexDigitValue c₂)])
    have hlen : (c₁ :: c₂ :: hex).length / 2 = hex.length / 2 + 1 := by
      simp only [List.length_cons]; omega
    have hshift₁ : (2 * done.length + 1) % 2 * 4 = 4 := by omega
    have hshift₂ : (2 * done.length + 1 + 1) % 2 * 4 = 0 := by omega
    simp only [hexLoop, hexValue_eq, if_pos h₁, if_pos h₂, hshift₁, hshift₂, hlen,
      List.replicate_succ, packed]
    rw [modify_behind _ _ _ _ (by omega), modify_behind _ _ _ _ (by omega)]
    simpa [Nat.mul_add] using hstep

/-- With an odd number of digits the first one is a byte of its own. -/
theorem hexLoop_odd {c : UInt8} (heven : hex.length % 2 = 0) (hhex : ∀ d ∈ c :: hex, IsHexDigit d) :
    hexLoop (c :: hex) 1 (List.replicate (hex.length / 2 + 1) 0) =
      (true, UInt8.ofNat (hexDigitValue c) :: packed hex) := by
  have hc : IsHexDigit c := hhex c (by simp)
  have hrest := hexLoop_even heven (fun d hd => hhex d (by simp [hd]))
    [UInt8.ofNat (hexDigitValue c)]
  simpa [hexLoop, hexValue_eq, hc, List.replicate_succ] using hrest

theorem packed_length (heven : hex.length % 2 = 0) : 2 * (packed hex).length = hex.length := by
  induction hex, heven using pairs_induction with
  | nil => rfl
  | pair c₁ c₂ hex heven _ ih =>
    simp only [packed, List.length_cons]
    omega

theorem packed_byte {c₁ c₂ : UInt8} (h₁ : IsHexDigit c₁) (h₂ : IsHexDigit c₂) :
    (UInt8.ofNat (hexDigitValue c₁) <<< 4 + UInt8.ofNat (hexDigitValue c₂)).toNat =
      hexDigitValue c₁ * 16 + hexDigitValue c₂ := by
  have hhalves : ∀ m < 16, ∀ n < 16, (UInt8.ofNat m <<< 4 + UInt8.ofNat n).toNat = m * 16 + n :=
    by decide
  exact hhalves _ (hexDigitValue_lt h₁) _ (hexDigitValue_lt h₂)

theorem bigEndian_packed (heven : hex.length % 2 = 0) (hhex : ∀ c ∈ hex, IsHexDigit c) :
    bigEndian (packed hex) = hexNumber hex := by
  induction hex, heven using pairs_induction with
  | nil => rfl
  | pair c₁ c₂ hex heven _ ih =>
    have hvalue := ih fun c hc => hhex c (by simp [hc])
    have hbyte := packed_byte (hhex c₁ (by simp)) (hhex c₂ (by simp))
    have hpair : (hex.map hexDigitValue).length = 2 * ((packed hex).map UInt8.toNat).length := by
      rw [List.length_map, List.length_map, packed_length heven]
    unfold bigEndian hexNumber at *
    rw [packed, List.map_cons, Positional.value_cons, hvalue, hbyte, List.map_cons, List.map_cons,
      Positional.value_pair _ _ _ hpair]
    norm_num

theorem npHexToData_of_hex {data : List UInt8} (hhex : ∀ c ∈ hex, IsHexDigit c) :
    (hex.length = 2 * data.length → npHexToData hex data = (true, packed hex)) ∧
      ∀ c rest, hex = c :: rest → rest.length + 2 = 2 * data.length →
        npHexToData hex data = (true, UInt8.ofNat (hexDigitValue c) :: packed rest) := by
  refine ⟨fun hlen => ?_, ?_⟩
  · have heven : hex.length % 2 = 0 := by omega
    have hdata : data.length = hex.length / 2 := by omega
    have hloop := hexLoop_even heven hhex []
    rw [npHexToData, npHexToDataLength, if_neg (by omega), if_neg (by omega),
      List.take_length, hdata]
    simpa using hloop
  · rintro c rest rfl hlen
    have hdata : data.length = rest.length / 2 + 1 := by omega
    rw [npHexToData, npHexToDataLength, if_neg (by simp; omega), if_pos (by simp; omega),
      List.take_length, hdata]
    exact hexLoop_odd (by omega) hhex

theorem npHexToData_succeeds_iff (hex data : List UInt8) :
    (npHexToData hex data).1 = true ↔
      (∀ c ∈ hex, IsHexDigit c) ∧
        (hex.length = 2 * data.length ∨ (hex.length : ℤ) = 2 * data.length - 1) := by
  rw [npHexToData, npHexToDataLength]
  by_cases hlen : hex.length = data.length * 2 ∨ hex.length + 1 = data.length * 2
  · have hfits : hex.length = 2 * data.length ∨ (hex.length : ℤ) = 2 * data.length - 1 := by omega
    rw [if_neg (not_not.mpr hlen), List.take_length, hexLoop_succeeds_iff]
    exact (and_iff_left hfits).symm
  · rw [if_pos hlen]
    refine iff_of_false Bool.false_ne_true fun h => ?_
    omega

theorem npHexToData_value {data : List UInt8} (h : (npHexToData hex data).1 = true) :
    (npHexToData hex data).2.length = data.length ∧
      bigEndian (npHexToData hex data).2 = hexNumber hex := by
  obtain ⟨hhex, hlen | hlen⟩ := (npHexToData_succeeds_iff hex data).mp h
  · have hpacked := packed_length (show hex.length % 2 = 0 by omega)
    rw [(npHexToData_of_hex hhex).1 hlen]
    exact ⟨by simp only; omega, bigEndian_packed (by omega) hhex⟩
  · obtain ⟨c, rest, rfl⟩ := List.exists_cons_of_length_pos (show 0 < hex.length by omega)
    rw [List.length_cons] at hlen
    have heven : rest.length % 2 = 0 := by omega
    have hpacked := packed_length heven
    have hvalue := bigEndian_packed heven fun d hd => hhex d (by simp [hd])
    have hc : hexDigitValue c < 256 :=
      Nat.lt_trans (hexDigitValue_lt (hhex c (by simp))) (by decide)
    rw [(npHexToData_of_hex hhex).2 c rest rfl (by omega)]
    refine ⟨by rw [List.length_cons]; omega, ?_⟩
    unfold bigEndian hexNumber at *
    rw [List.map_cons, Positional.value_cons, hvalue, List.map_cons, Positional.value_cons,
      List.length_map, List.length_map, ← hpacked, pow_mul, UInt8.toNat_ofNat_of_lt' hc]
    norm_num

theorem encoded_digits (byte : UInt8) :
    IsHexDigit (encodeChar (byte >>> 4 &&& 0xF)) ∧ IsHexDigit (encodeChar (byte &&& 0xF)) ∧
      UInt8.ofNat (hexDigitValue (encodeChar (byte >>> 4 &&& 0xF))) <<< 4 +
        UInt8.ofNat (hexDigitValue (encodeChar (byte &&& 0xF))) = byte := by
  revert byte
  apply ByteOrder.forall_byte
  decide +kernel

theorem packed_npDataToHex (d : List UInt8) :
    (npDataToHex d).length = 2 * d.length ∧ (∀ c ∈ npDataToHex d, IsHexDigit c) ∧
      packed (npDataToHex d) = d := by
  induction d with
  | nil => simp [npDataToHex, packed]
  | cons byte d ih =>
    obtain ⟨hlen, hhex, hpacked⟩ := ih
    obtain ⟨hhigh, hlow, hbyte⟩ := encoded_digits byte
    unfold npDataToHex at *
    simp only [List.flatMap_cons, List.cons_append, List.nil_append, List.length_cons,
      List.forall_mem_cons, packed, hbyte, hpacked, hlen]
    exact ⟨by omega, ⟨hhigh, hlow, hhex⟩, trivial⟩

theorem encode_packed {c₁ c₂ : UInt8} (h₁ : IsHexDigit c₁) (h₂ : IsHexDigit c₂) :
    npDataToHex [UInt8.ofNat (hexDigitValue c₁) <<< 4 + UInt8.ofNat (hexDigitValue c₂)] =
      [lowerCase c₁, lowerCase c₂] := by
  have hhalves : ∀ m < 16, ∀ n < 16, npDataToHex [UInt8.ofNat m <<< 4 + UInt8.ofNat n] =
      [hexDigits.getD m 0, hexDigits.getD n 0] := by decide
  have hdigit : ∀ c, IsHexDigit c → hexDigits.getD (hexDigitValue c) 0 = lowerCase c := by
    intro c hc
    have hlt : hexDigitValue c < hexDigits.length := hexDigitValue_lt hc
    rw [List.getD_eq_getElem?_getD, List.getElem?_eq_getElem hlt]
    exact List.getElem_idxOf hlt
  rw [hhalves _ (hexDigitValue_lt h₁) _ (hexDigitValue_lt h₂), hdigit c₁ h₁, hdigit c₂ h₂]

theorem npDataToHex_packed (heven : hex.length % 2 = 0) (hhex : ∀ c ∈ hex, IsHexDigit c) :
    npDataToHex (packed hex) = hex.map lowerCase := by
  induction hex, heven using pairs_induction with
  | nil => rfl
  | pair c₁ c₂ hex heven _ ih =>
    have hrest := ih fun c hc => hhex c (by simp [hc])
    have hbyte := encode_packed (hhex c₁ (by simp)) (hhex c₂ (by simp))
    unfold npDataToHex at *
    rw [List.flatMap_singleton] at hbyte
    rw [packed, List.flatMap_cons, hrest, hbyte]
    rfl

/-- A call succeeds exactly for hexadecimal digits that fill the data, whose bytes are then those
of the number. Reading what was written gives the data back, and writing what was read from an even
number of digits gives the digits in lower case. -/
theorem npHexToData_sound :
    (∀ hex data, (npHexToData hex data).1 = true ↔
      (∀ c ∈ hex, IsHexDigit c) ∧
        (hex.length = 2 * data.length ∨ (hex.length : ℤ) = 2 * data.length - 1)) ∧
    (∀ hex data, (npHexToData hex data).1 = true →
      (npHexToData hex data).2.length = data.length ∧
        bigEndian (npHexToData hex data).2 = hexNumber hex) ∧
    (∀ d data, data.length = d.length → npHexToData (npDataToHex d) data = (true, d)) ∧
    ∀ hex data, (npHexToData hex data).1 = true → hex.length % 2 = 0 →
      npDataToHex (npHexToData hex data).2 = hex.map lowerCase := by
  refine ⟨npHexToData_succeeds_iff, fun hex data => npHexToData_value, ?_, ?_⟩
  · intro d data hdata
    obtain ⟨hlen, hhex, hpacked⟩ := packed_npDataToHex d
    rw [(npHexToData_of_hex hhex).1 (by omega), hpacked]
  · intro hex data h heven
    obtain ⟨hhex, hlen | hodd⟩ := (npHexToData_succeeds_iff hex data).mp h
    · rw [(npHexToData_of_hex hhex).1 hlen]
      exact npDataToHex_packed heven hhex
    · omega

/-- "1F" and "fff". -/
example : npHexToData [49, 70] [7] = (true, [31]) ∧
      npHexToData [102, 102, 102] [0, 0] = (true, [15, 255]) := by
  decide

end NabtoDevice
