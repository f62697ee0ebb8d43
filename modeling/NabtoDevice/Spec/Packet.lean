import NabtoDevice.Spec.Platform

/-! Variable length integers of `src/core/nc_packet.c`; the reader is `varUintRead`. -/

namespace NabtoDevice

/-- The bytes that are written from `buf` on. -/
def varUintWriteForward (val : UInt64) : List UInt8 :=
  let b7 := val.toUInt8
  let b6 := (val >>> 8).toUInt8
  let b5 := (val >>> 16).toUInt8
  let b4 := (val >>> 24).toUInt8
  let b3 := (val >>> 32).toUInt8
  let b2 := (val >>> 40).toUInt8
  let b1 := (val >>> 48).toUInt8
  let b0 := (val >>> 56).toUInt8
  if val < (1 : UInt64) <<< 6 then [b7]
  else if val < (1 : UInt64) <<< 14 then [b6 ||| (1 : UInt8) <<< 6, b7]
  else if val < (1 : UInt64) <<< 30 then [b4 ||| (2 : UInt8) <<< 6, b5, b6, b7]
  else [b0 ||| (3 : UInt8) <<< 6, b1, b2, b3, b4, b5, b6, b7]

end NabtoDevice
