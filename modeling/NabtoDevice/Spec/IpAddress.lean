import NabtoDevice.Spec.DnsMultiResolver
import NabtoDevice.Spec.Hex

/-! Addresses as text, `src/platform/np_ip_address.c`. A string is the list of its bytes before
the terminating zero. -/

namespace NabtoDevice

def isDigit (c : UInt8) : Bool := 48 ≤ c && c ≤ 57

/-- The number read after `n`, and the position behind it. -/
def readNumber (n : UInt32) : List UInt8 → UInt32 × List UInt8
  | [] => (n, [])
  | c :: ptr => if isDigit c then readNumber (n * 10 + (c - 48).toUInt32) ptr else (n, c :: ptr)

def readNumberDot (ptr : List UInt8) : Option (UInt32 × List UInt8) :=
  match readNumber 0 ptr with
  | (n, 46 :: ptr) => some (n, ptr)
  | _ => none

/-- The numbers are cut to bytes when they are stored. -/
def npIpAddressReadV4 (str : List UInt8) (ip : NpIpAddress) : Bool × NpIpAddress :=
  match readNumberDot str with
  | none => (false, ip)
  | some (a, ptr) =>
    match readNumberDot ptr with
    | none => (false, ip)
    | some (b, ptr) =>
      match readNumberDot ptr with
      | none => (false, ip)
      | some (c, ptr) =>
        let d := (readNumber 0 ptr).1
        (true, .v4 [a.toUInt8, b.toUInt8, c.toUInt8, d.toUInt8])

/-- A byte printed as `PRIu8`. -/
def printDecimal (n : UInt8) : List UInt8 :=
  if n < 10 then [48 + n]
  else if n < 100 then [48 + n / 10, 48 + n % 10]
  else [48 + n / 100, 48 + n / 10 % 10, 48 + n % 10]

/-- The bytes two by two, with colons between them. -/
def printHexGroups : List UInt8 → List UInt8
  | b₁ :: b₂ :: [] => npDataToHex [b₁, b₂]
  | b₁ :: b₂ :: ip => npDataToHex [b₁, b₂] ++ 58 :: printHexGroups ip
  | _ => []

def npIpAddressToString : NpIpAddress → List UInt8
  | .v4 ip => [46].intercalate (ip.map printDecimal)
  | .v6 ip => printHexGroups ip

end NabtoDevice
