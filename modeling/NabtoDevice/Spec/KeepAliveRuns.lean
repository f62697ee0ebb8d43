import NabtoDevice.Spec.Attacher

/-! Keep alive settings and ticks over time (`src/core/nc_keep_alive.c` and
`handle_attached` of `src/core/nc_attacher_attach_start.c`). -/

namespace NabtoDevice

/-! ### Settings from the server -/

/-- `a / b` in C, which has no value for `b = 0`. -/
def divide (a b : UInt32) : Option UInt32 := if b = 0 then none else some (a / b)

/-- `nc_keep_alive_set_settings` with a division that may fail. -/
def setSettings (ka : NcKeepAlive) (interval retryInterval maxRetries : UInt32) :
    Option NcKeepAlive := do
  let n ← divide interval retryInterval
  return { ka with
    kaInterval := interval, kaRetryInterval := retryInterval, kaMaxRetries := maxRetries, n }

/-- The map `KeepAlive` of an attach start response. A value is `none` if it is missing or not
an unsigned integer. -/
structure KeepAliveMap where
  interval : Option UInt64
  retryInterval : Option UInt64
  maxRetries : Option UInt64
  deriving DecidableEq, Repr

/-- The settings that `handle_attached` finds; `none` is a response without the map. -/
def KeepAliveMap.settings? : Option KeepAliveMap → Option (UInt64 × UInt64 × UInt64)
  | some ⟨some i, some ri, some mr⟩ => some (i, ri, mr)
  | _ => none

/-- The first part of `handle_attached`. The settings are passed on as `uint32_t`. -/
def handleAttachedKeepAlive (ka : NcKeepAlive) (keepAlive : Option KeepAliveMap) :
    Option NcKeepAlive :=
  match KeepAliveMap.settings? keepAlive with
  | some (i, ri, mr) => setSettings ka i.toUInt32 ri.toUInt32 mr.toUInt32
  | none => some ka

/-- After how many milliseconds `nc_keep_alive_wait` lets the next tick come. -/
def ncKeepAliveWaitInterval (ka : NcKeepAlive) : UInt32 := ka.kaRetryInterval

/-! ### Calls that change the settings -/

inductive KeepAliveCall
  | init
  | setSettings (interval retryInterval maxRetries : UInt32)
  | reset
  deriving DecidableEq, Repr

/-- `nc_keep_alive_init` on a context that was used before. -/
def ncKeepAliveReinit (ka : NcKeepAlive) : NcKeepAlive :=
  { ncKeepAliveInit with isSending := ka.isSending, sendBuffer := ka.sendBuffer }

def keepAliveCallStep (ka : NcKeepAlive) : KeepAliveCall → Option NcKeepAlive
  | .init => some (ncKeepAliveReinit ka)
  | .setSettings interval retryInterval maxRetries =>
    setSettings ka interval retryInterval maxRetries
  | .reset => some (ncKeepAliveReset ka)

def keepAliveCalls : Machine NcKeepAlive KeepAliveCall := ⟨ncKeepAliveInit, keepAliveCallStep⟩

/-! ### Ticks -/

/-- A keep alive context between ticks, with the packet counters as numbers that do not wrap. -/
structure KeepAliveTicks where
  ka : NcKeepAlive
  recvCount : ℕ
  sentCount : ℕ
  /-- The counters at the last tick at which both had advanced. -/
  lastRecvCount : ℕ
  lastSentCount : ℕ
  /-- Ticks since then. -/
  silent : ℕ
  /-- How many of these returned `SEND_KA`. -/
  sends : ℕ
  /-- What the last tick returned. -/
  action : NcKeepAliveAction
  deriving DecidableEq, Repr

/-- The packets that were received and sent before the tick, and whether a keep alive packet
is being sent. -/
structure KeepAliveTick where
  received : ℕ
  sent : ℕ
  isSending : Bool
  deriving DecidableEq, Repr

namespace KeepAliveTicks

/-- Both counters have advanced when the tick comes. -/
def advanced (s : KeepAliveTicks) (e : KeepAliveTick) : Bool :=
  s.lastRecvCount < s.recvCount + e.received && s.lastSentCount < s.sentCount + e.sent

/-- `nc_keep_alive_should_send` with the counters that `get_packet_count` returns. -/
def shouldSend (s : KeepAliveTicks) (e : KeepAliveTick) : NcKeepAlive × NcKeepAliveAction :=
  ncKeepAliveShouldSend { s.ka with isSending := e.isSending }
    (UInt32.ofNat (s.recvCount + e.received))
    (UInt32.ofNat (s.sentCount + e.sent))

def tick (s : KeepAliveTicks) (e : KeepAliveTick) : KeepAliveTicks :=
  let (ka, action) := s.shouldSend e
  let recvCount := s.recvCount + e.received
  let sentCount := s.sentCount + e.sent
  if s.advanced e then
    { ka, recvCount, sentCount, action
      lastRecvCount := recvCount, lastSentCount := sentCount, silent := 0, sends := 0 }
  else
    { s with
      ka, recvCount, sentCount, action
      silent := s.silent + 1
      sends := if action = .sendKa then s.sends + 1 else s.sends }

end KeepAliveTicks

/-- A connection whose server has given the settings, from the time on when the packet
counters were last seen to advance. -/
def keepAliveTicks (ka : NcKeepAlive) (interval retryInterval maxRetries : UInt32)
    (recvCount sentCount : ℕ) : Machine KeepAliveTicks KeepAliveTick where
  init :=
    { ka := { ncKeepAliveSetSettings ka interval retryInterval maxRetries with
        lostKeepAlives := 0, lastRecvCount := UInt32.ofNat recvCount
        lastSentCount := UInt32.ofNat sentCount }
      recvCount, sentCount, lastRecvCount := recvCount, lastSentCount := sentCount
      silent := 0, sends := 0, action := .doNothing }
  step s e := some (s.tick e)

end NabtoDevice
