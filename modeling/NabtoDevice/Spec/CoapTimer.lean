import NabtoDevice.Lib.Machine
import NabtoDevice.Lib.Stamp

/-! The timers of the CoAP modules `src/core/nc_coap_client.c` and
`src/core/nc_coap_server.c`. Times are in milliseconds and do not wrap; what the modules see
of them is their stamp. What the CoAP library answers comes with the events. -/

namespace NabtoDevice

def nabtoCoapStampDiff (a b : UInt32) : ℤ := Stamp.diff a b

def nabtoCoapIsStampLess (a b : UInt32) : Bool := nabtoCoapStampDiff a b < 0

/-- The part of `nc_coap_client_context` and of `nc_coap_server_context`. -/
structure CoapTimer where
  currentExpiry : UInt32
  /-- When the event queue is to run `timer`, if it is posted. -/
  timer : Option ℕ
  deriving DecidableEq, Repr

def npEventQueuePostTimedEvent (ctx : CoapTimer) (now milliseconds : ℕ) : CoapTimer :=
  { ctx with timer := some (now + milliseconds) }

def setInfiniteStamp (ctx : CoapTimer) (now : ℕ) : CoapTimer :=
  { ctx with currentExpiry := Stamp.ofTime now + (1 : UInt32) <<< 29 }

def ncCoapClientSetInfiniteStamp : CoapTimer → ℕ → CoapTimer := setInfiniteStamp
def ncCoapServerSetInfiniteStamp : CoapTimer → ℕ → CoapTimer := setInfiniteStamp

def handleWait (ctx : CoapTimer) (now : ℕ) (nextStamp : UInt32) : CoapTimer :=
  if nabtoCoapIsStampLess nextStamp ctx.currentExpiry then
    let ctx := { ctx with currentExpiry := nextStamp }
    let diff := nabtoCoapStampDiff nextStamp (Stamp.ofTime now)
    let diff := if diff < 0 then 0 else diff
    npEventQueuePostTimedEvent ctx now diff.toNat
  else ctx

def ncCoapClientHandleWait : CoapTimer → ℕ → UInt32 → CoapTimer := handleWait
def ncCoapServerHandleWait : CoapTimer → ℕ → UInt32 → CoapTimer := handleWait

inductive CoapModule
  | client
  | server
  deriving DecidableEq, Repr

/-- The next event of the CoAP library. Callbacks, sends and nothing leave the timer as it
is. -/
inductive CoapModuleNextEvent
  | wait (nextStamp : UInt32)
  | other
  deriving DecidableEq, Repr

namespace CoapModule

/-- `nc_coap_client_event` and `nc_coap_server_event`. -/
def event (m : CoapModule) (ctx : CoapTimer) (now : ℕ) : CoapModuleNextEvent → CoapTimer
  | .wait nextStamp =>
    match m with
    | .client => ncCoapClientHandleWait ctx now nextStamp
    | .server => ncCoapServerHandleWait ctx now nextStamp
  | .other => ctx

def restamp (m : CoapModule) (ctx : CoapTimer) (now : ℕ) : CoapTimer :=
  match m with
  | .client => ncCoapClientSetInfiniteStamp ctx now
  | .server => ncCoapServerSetInfiniteStamp ctx now

/-- `nc_coap_client_handle_timeout` and `nc_coap_server_handle_timeout`, from the event
queue that has taken the timer. -/
def handleTimeout (m : CoapModule) (ctx : CoapTimer) (now : ℕ) (next : CoapModuleNextEvent) :
    CoapTimer :=
  m.event (m.restamp { ctx with timer := none } now) now next

end CoapModule

structure CoapTimerHistory where
  ctx : CoapTimer
  now : ℕ
  /-- When `currentExpiry` was last set to the infinite stamp. -/
  stamped : ℕ
  /-- The timeout of the wait that the module has handled last, if it was at most `2 ^ 28`
  ahead. One that has passed is due at once. -/
  awaited : Option ℕ
  deriving DecidableEq, Repr

def soon (now : ℕ) (nextStamp : UInt32) : Bool :=
  nabtoCoapStampDiff nextStamp (Stamp.ofTime now) ≤ 2 ^ 28

def CoapModuleNextEvent.awaits (now : ℕ) : CoapModuleNextEvent → Option ℕ
  | .wait nextStamp =>
    if soon now nextStamp then some (now + (nabtoCoapStampDiff nextStamp (Stamp.ofTime now)).toNat)
    else none
  | .other => none

inductive CoapTimerEvent
  | pass (milliseconds : ℕ)
  /-- After a packet, a sent packet or a notification. -/
  | event (next : CoapModuleNextEvent)
  | timeout (next : CoapModuleNextEvent)
  deriving DecidableEq, Repr

/-- The event queue runs the timer when it is due or some time later. -/
def coapTimerStep (m : CoapModule) (h : CoapTimerHistory) : CoapTimerEvent → Option CoapTimerHistory
  | .pass milliseconds => some { h with now := h.now + milliseconds }
  | .event next =>
    some { h with ctx := m.event h.ctx h.now next, awaited := next.awaits h.now }
  | .timeout next =>
    if h.ctx.timer.any (· ≤ h.now) then
      some { h with
        ctx := m.handleTimeout h.ctx h.now next
        stamped := h.now
        awaited := next.awaits h.now }
    else none

/-- From the initialisation of the module at the time `start`. -/
def coapTimer (m : CoapModule) (start : ℕ) : Machine CoapTimerHistory CoapTimerEvent :=
  ⟨⟨m.restamp ⟨0, none⟩ start, start, start, none⟩, coapTimerStep m⟩

end NabtoDevice
