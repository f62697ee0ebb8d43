import Mathlib.Algebra.Group.Nat.Defs
import Mathlib.Data.List.Basic

/-! What several modules of the core share: the error codes of
`src/platform/np_error_code.h` that the modelled functions return, the variable
length integers of `src/core/nc_packet.c`, and the values found in CBOR maps. -/

namespace NabtoDevice

inductive NpErrorCode
  | ok
  | unknown
  | eof
  | noValidEndpoints
  | operationInProgress
  | aborted
  | stopped
  | closed
  | inUse
  | invalidState
  | udpSocketError
  | outOfMemory
  | connectionClosing
  | malformedPacket
  | invalidArgument
  | notFound
  | again
  | futureNotResolved
  deriving DecidableEq, Repr

/-- `var_uint_read`: the two upper bits of the first byte give the length 1, 2, 4
or 8, the other bits and the bytes that follow the value. -/
def varUintRead : List UInt8 → Option (ℕ × ℕ)
  | [] => none
  | first :: rest =>
    let len := 2 ^ (first >>> 6).toNat
    if rest.length + 1 < len then none
    else some ((rest.take (len - 1)).foldl (fun val b => val * 256 + b.toNat)
      (first &&& 0x3F).toNat,
      len)

/-- The value a key of a CBOR map has; `invalid` when the map has no such key. -/
inductive CborValue
  | textString (s : List UInt8)
  | byteString (s : List UInt8)
  | other
  | invalid
  deriving DecidableEq, Repr

end NabtoDevice
