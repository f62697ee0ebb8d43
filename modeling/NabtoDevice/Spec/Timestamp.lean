import Mathlib.Data.UInt
import Mathlib.Tactic.Common

/-! The stamps of `src/platform/np_timestamp_wrapper.c` with the arithmetic that C defines, and
the timer of `src/modules/mbedtls/nm_mbedtls_timer.c`, which uses them. -/

namespace NabtoDevice

/-- The conversion to `int32_t`. -/
def toInt32 (t : UInt32) : ℤ := t.toBitVec.toInt

/-- A subtraction of the type `int32_t`; `none` is an overflow, for which C defines no result. -/
def int32Sub (v1 v2 : ℤ) : Option ℤ :=
  if -2 ^ 31 ≤ v1 - v2 ∧ v1 - v2 < 2 ^ 31 then some (v1 - v2) else none

def npTimestampDifference (t1 t2 : UInt32) : Option ℤ := int32Sub (toInt32 t1) (toInt32 t2)

def npTimestampLessOrEqual (t1 t2 : UInt32) : Option Bool :=
  (int32Sub (toInt32 t1) (toInt32 t2)).map fun v => decide (v ≤ 0)

/-- `tEv` is the delay with which the event of the timer was posted, while it is in the queue. -/
structure NmMbedtlsTimer where
  intermediateTp : UInt32
  finalTp : UInt32
  tEv : Option UInt32
  deriving DecidableEq, Repr

def nmMbedtlsTimerSetDelay (ctx : NmMbedtlsTimer)
    (now intermediateMilliseconds finalMilliseconds : UInt32) : NmMbedtlsTimer :=
  if finalMilliseconds = 0 then { ctx with tEv := none, finalTp := 0 }
  else
    { intermediateTp := now + intermediateMilliseconds
      finalTp := now + finalMilliseconds
      tEv := some finalMilliseconds }

def nmMbedtlsTimerGetDelay (ctx : NmMbedtlsTimer) (now : UInt32) : Option ℤ :=
  if ctx.finalTp ≠ 0 then do
    if ← npTimestampLessOrEqual ctx.finalTp now then return 2
    else if ← npTimestampLessOrEqual ctx.intermediateTp now then return 1
    else return 0
  else some (-1)

end NabtoDevice
