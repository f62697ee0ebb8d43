import NabtoDevice.Lib.Machine
import NabtoDevice.Spec.Platform

/-! The listeners of `src/api/nabto_device_event_handler.c`: a queue of events, at most one
future that waits for the next of them, and a callback that gets every event. The callback
and the futures belong to the module that uses the listener, whose state is passed along
as `σ`. The last part records the calls and answers of one listener. -/

namespace NabtoDevice

variable {σ α φ : Type}

/-- The arguments of `nabto_device_listener_resolve_event`. -/
structure ListenerCall (α φ : Type) where
  ec : NpErrorCode
  future : Option φ
  eventData : Option α
  deriving DecidableEq, Repr

/-- What a listener calls: its callback, the store through `genericFutureResolverData`
when that is set, and `nabto_device_future_resolve`. -/
structure ListenerEffects (σ α φ : Type) where
  cb : ListenerCall α φ → σ → NpErrorCode × σ
  genericFutureResolverData : α → σ → σ
  futureResolve : φ → NpErrorCode → σ → σ

structure Listener (α φ : Type) where
  eventsList : List α
  /-- The callback is not `NULL`. -/
  cb : Bool
  fut : Option φ
  ec : NpErrorCode
  isInitialized : Bool
  deriving DecidableEq, Repr

namespace Listener

def new : Listener α φ := ⟨[], false, none, .ok, false⟩

/-- `nabto_device_listener_init` leaves `fut` as it is. -/
def init (l : Listener α φ) : Listener α φ :=
  { l with cb := true, eventsList := [], ec := .ok, isInitialized := true }

section

variable (eff : ListenerEffects σ α φ)

def tryResolve (l : Listener α φ) (s : σ) : Listener α φ × σ :=
  match l.fut, l.eventsList with
  | some fut, item :: rest =>
    let s := eff.genericFutureResolverData item s
    let r := if l.cb then eff.cb ⟨.ok, some fut, some item⟩ s else (.unknown, s)
    ({ l with eventsList := rest, fut := none }, eff.futureResolve fut r.1 r.2)
  | _, _ => (l, s)

/-- The callback is called when it is set; what it returns is ignored. -/
def notify (l : Listener α φ) (call : ListenerCall α φ) (s : σ) : σ :=
  if l.cb then (eff.cb call s).2 else s

def resolveErrorState (l : Listener α φ) (s : σ) : Listener α φ × σ :=
  -- On aborted, all events are stopped first.
  let ec := if l.ec = .aborted then .stopped else l.ec
  let s := l.eventsList.foldl (fun s item => l.notify eff ⟨ec, none, some item⟩ s) s
  let s := match l.fut with
    | some fut => eff.futureResolve fut l.ec s
    | none => s
  let s := l.notify eff ⟨.aborted, none, none⟩ s
  ({ l with eventsList := [], fut := none, cb := false }, s)

def addEvent (l : Listener α φ) (data : α) (s : σ) : NpErrorCode × Listener α φ × σ :=
  if l.isInitialized = false then (.invalidState, l, s)
  else if l.ec ≠ .ok then (l.ec, l, s)
  else (.ok, tryResolve eff { l with eventsList := l.eventsList ++ [data] } s)

def initFuture (l : Listener α φ) (future : φ) : NpErrorCode × Listener α φ :=
  if l.isInitialized = false then (.invalidState, l)
  else if l.ec ≠ .ok then (l.ec, l)
  else if l.fut.isSome then (.operationInProgress, l)
  else (.ok, { l with fut := some future })

def setErrorCode (l : Listener α φ) (ec : NpErrorCode) (s : σ) : Listener α φ × σ :=
  if l.isInitialized = false then (l, s)
  else resolveErrorState eff { l with ec } s

/-- `nabto_device_listener_stop_internal`. -/
def stop (l : Listener α φ) (s : σ) : NpErrorCode × Listener α φ × σ :=
  if l.isInitialized = false then (.invalidState, l, s)
  else if l.ec = .ok then (.stopped, l.setErrorCode eff .stopped s)
  else (l.ec, l, s)

end

end Listener

/-- The state of the module around a listener with the calls its callback has had, each
with what was returned, and the futures resolved. -/
structure Recorded (σ α φ : Type) where
  user : σ
  calls : List (ListenerCall α φ × NpErrorCode)
  resolved : List (φ × NpErrorCode)
  deriving DecidableEq, Repr

def recording (cb : ListenerCall α φ → σ → NpErrorCode × σ) :
    ListenerEffects (Recorded σ α φ) α φ where
  cb call s :=
    let r := cb call s.user
    (r.1, { s with user := r.2, calls := s.calls ++ [(call, r.1)] })
  genericFutureResolverData _ s := s
  futureResolve fut ec s := { s with resolved := s.resolved ++ [(fut, ec)] }

structure ListenerHistory (σ α φ : Type) where
  listener : Listener α φ
  seen : Recorded σ α φ
  /-- The events for which `nabto_device_listener_add_event` returned `NABTO_EC_OK`. -/
  accepted : List α
  /-- The futures for which `nabto_device_listener_init_future` returned `NABTO_EC_OK`. -/
  registered : List φ
  errorCodes : List NpErrorCode
  deriving DecidableEq, Repr

inductive ListenerEvent (α φ : Type)
  | addEvent (data : α)
  | initFuture (future : φ)
  | tryResolve
  | stop
  | setErrorCode (ec : NpErrorCode)
  deriving DecidableEq, Repr

section

variable (cb : ListenerCall α φ → σ → NpErrorCode × σ)

/-- `nabto_device_listener_set_error_code` puts the listener into an error state, so its
argument is an error and not `NABTO_EC_OK`. -/
def listenerStep (h : ListenerHistory σ α φ) :
    ListenerEvent α φ → Option (ListenerHistory σ α φ)
  | .addEvent data =>
    let r := h.listener.addEvent (recording cb) data h.seen
    some { h with
      listener := r.2.1
      seen := r.2.2
      accepted := if r.1 = .ok then h.accepted ++ [data] else h.accepted }
  | .initFuture future =>
    let r := h.listener.initFuture future
    some { h with
      listener := r.2
      registered := if r.1 = .ok then h.registered ++ [future] else h.registered }
  | .tryResolve =>
    let r := h.listener.tryResolve (recording cb) h.seen
    some { h with listener := r.1, seen := r.2 }
  | .stop =>
    let r := h.listener.stop (recording cb) h.seen
    some { h with
      listener := r.2.1
      seen := r.2.2
      errorCodes := if h.listener.ec = .ok then h.errorCodes ++ [r.1] else h.errorCodes }
  | .setErrorCode ec =>
    if ec = .ok then none
    else
      let r := h.listener.setErrorCode (recording cb) ec h.seen
      some { h with listener := r.1, seen := r.2, errorCodes := h.errorCodes ++ [ec] }

/-- A listener that was initialised with the callback `cb`. -/
def listenerHistory (user : σ) : Machine (ListenerHistory σ α φ) (ListenerEvent α φ) :=
  ⟨⟨Listener.new.init, ⟨user, [], []⟩, [], [], []⟩, listenerStep cb⟩

end

end NabtoDevice
