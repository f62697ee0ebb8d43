import Mathlib.Data.UInt

/-! Hexadecimal text, `src/platform/np_util.c`. A string is the list of its bytes before the
terminating zero. -/

namespace NabtoDevice

/-- The value of a character; `none` is the branch that gives up. -/
def hexValue (c : UInt8) : Option UInt8 :=
  if 48 ≤ c ∧ c ≤ 57 then some (c - 48)
  else if 65 ≤ c ∧ c ≤ 70 then some (10 + (c - 65))
  else if 97 ≤ c ∧ c ≤ 102 then some (10 + (c - 97))
  else none

/-- The loop of `np_hex_to_data_length` from `ptr` on. -/
def hexLoop : List UInt8 → ℕ → List UInt8 → Bool × List UInt8
  | [], _, data => (true, data)
  | c :: ptr, index, data =>
    match hexValue c with
    | none => (false, data)
    | some value =>
      hexLoop ptr (index + 1)
        (data.modify (index / 2) (· + value <<< UInt8.ofNat ((index + 1) % 2 * 4)))

/-- With no data bytes `dataLength * 2 - 1` is the largest `size_t`, which no string has as its
length, so that only the first of the two lengths is left. -/
def npHexToDataLength (hex : List UInt8) (hexLength : ℕ) (data : List UInt8) : Bool × List UInt8 :=
  if ¬ (hexLength = data.length * 2 ∨ hexLength + 1 = data.length * 2) then (false, data)
  else
    hexLoop (hex.take hexLength) (if hexLength % 2 = 1 then 1 else 0) (List.replicate data.length 0)

def npHexToData (hex data : List UInt8) : Bool × List UInt8 := npHexToDataLength hex hex.length data

def encodeChar (val : UInt8) : UInt8 := if val ≤ 9 then 48 + val else 97 + (val - 10)

def npDataToHex (data : List UInt8) : List UInt8 :=
  data.flatMap fun (byte : UInt8) => [encodeChar (byte >>> 4 &&& 0xF), encodeChar (byte &&& 0xF)]

end NabtoDevice
