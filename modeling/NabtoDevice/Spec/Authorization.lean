import NabtoDevice.Spec.Listener

/-! Authorization requests, `src/api/nabto_device_authorization.c` and
`src/api/nabto_device_authorization_events.c`. The platform creates a request and either
discards it or has it checked; a checked request goes through the listener to the
application, which gives a verdict and frees it. Requests are numbered in the order they
are created. -/

namespace NabtoDevice

structure AuthorizationRequest where
  apiDone : Bool
  platformDone : Bool
  verdict : Bool
  verdictDone : Bool
  /-- The verdict event is posted and has not been handled. -/
  verdictEvent : Bool
  /-- `check_access` was called, so there is a verdict callback. -/
  checked : Bool
  /-- The application got the request and has not freed it. -/
  held : Bool
  /-- The verdicts given by the application. -/
  verdicts : List Bool
  callbacks : List Bool
  freed : ℕ
  deriving DecidableEq, Repr

namespace AuthorizationRequest

def createRequest : AuthorizationRequest where
  apiDone := true
  platformDone := false
  verdict := false
  verdictDone := false
  verdictEvent := false
  checked := false
  held := false
  verdicts := []
  callbacks := []
  freed := 0

/-- `free_request_when_unused`; the verdict event is destroyed as well. -/
def freeRequest (r : AuthorizationRequest) : AuthorizationRequest :=
  { r with verdictEvent := false, freed := r.freed + 1 }

def discardRequest (r : AuthorizationRequest) : AuthorizationRequest :=
  let r := { r with platformDone := true }
  if r.apiDone then r.freeRequest else r

def doVerdict (r : AuthorizationRequest) (verdict : Bool) : AuthorizationRequest :=
  if r.verdictDone = false then { r with verdict, verdictDone := true, verdictEvent := true } else r

/-- The event queue takes the event out and calls `handle_verdict`. -/
def handleVerdict (r : AuthorizationRequest) : AuthorizationRequest :=
  let r := { r with
    verdictEvent := false
    callbacks := r.callbacks ++ [r.verdict]
    platformDone := true }
  if r.apiDone then r.freeRequest else r

/-- `nabto_device_authorization_request_free`. -/
def requestFree (r : AuthorizationRequest) : AuthorizationRequest :=
  let r := { (if r.verdictDone = false then r.doVerdict false else r) with
    apiDone := true
    held := false }
  if r.platformDone then r.freeRequest else r

/-- `nabto_device_authorization_request_verdict`. -/
def requestVerdict (r : AuthorizationRequest) (verdict : Bool) : AuthorizationRequest :=
  { r.doVerdict verdict with verdicts := r.verdicts ++ [verdict] }

end AuthorizationRequest

/-- The module: all requests made, and the listener once it is set. -/
structure Authorization where
  requests : List AuthorizationRequest
  listener : Option (Listener ℕ ℕ)
  deriving DecidableEq, Repr

/-- `nabto_device_authorization_listener_callback`: with `NABTO_EC_OK` the request is
stored for the application, and nothing is done in the error cases. -/
def authorizationListenerCallback (call : ListenerCall ℕ ℕ) (requests : List AuthorizationRequest) :
    NpErrorCode × List AuthorizationRequest :=
  match call.ec, call.eventData with
  | .ok, some i => (.ok, requests.modify i fun r => { r with held := true })
  | _, _ => (.ok, requests)

def authorizationEffects : ListenerEffects (List AuthorizationRequest) ℕ ℕ where
  cb := authorizationListenerCallback
  genericFutureResolverData _ requests := requests
  futureResolve _ _ requests := requests

/-- The end of `check_access`, for a request that is not on the listener. -/
def denyRequest (requests : List AuthorizationRequest) (i : ℕ) : List AuthorizationRequest :=
  requests.modify i fun r => { r with apiDone := true }.doVerdict false

def checkAccess (a : Authorization) (i : ℕ) : Authorization :=
  let requests := a.requests.modify i fun r => { r with apiDone := false, checked := true }
  match a.listener with
  | none => { a with requests := denyRequest requests i }
  | some listener =>
    let r := listener.addEvent authorizationEffects i requests
    { requests := if r.1 = .ok then r.2.2 else denyRequest r.2.2 i, listener := some r.2.1 }

/-- `nabto_device_authorization_request_init_listener` with a new listener; a second one
is refused with `NABTO_EC_IN_USE`. -/
def authorizationInitListener (a : Authorization) : Authorization :=
  match a.listener with
  | some _ => a
  | none => { a with listener := some Listener.new.init }

/-- `nabto_device_listener_new_authorization_request`. -/
def newAuthorizationRequest (a : Authorization) (fut : ℕ) : Authorization :=
  match a.listener with
  | none => a
  | some listener =>
    if listener.ec ≠ .ok then a
    else
      let r := listener.initFuture fut
      if r.1 ≠ .ok then a
      else
        let t := r.2.tryResolve authorizationEffects a.requests
        { requests := t.2, listener := some t.1 }

inductive AuthorizationEvent
  | createRequest
  | discardRequest (i : ℕ)
  | checkAccess (i : ℕ)
  | initListener
  | newRequest (fut : ℕ)
  | stopListener
  | listenerError (ec : NpErrorCode)
  | verdict (i : ℕ) (verdict : Bool)
  | free (i : ℕ)
  | verdictEvent (i : ℕ)
  deriving DecidableEq, Repr

/-- The platform calls one of `discard_request` and `check_access`, the application uses
requests it got and has not freed, and the event queue runs posted events. -/
def authorizationAllows (a : Authorization) : AuthorizationEvent → Bool
  | .discardRequest i | .checkAccess i => a.requests[i]?.any fun r => !r.checked && !r.platformDone
  | .verdict i _ | .free i => a.requests[i]?.any (·.held)
  | .verdictEvent i => a.requests[i]?.any (·.verdictEvent)
  | .listenerError ec => ec ≠ .ok
  | .createRequest | .initListener | .newRequest _ | .stopListener => true

def authorizationStep (a : Authorization) (e : AuthorizationEvent) : Option Authorization :=
  if authorizationAllows a e = false then none
  else
    match e with
    | .createRequest => some { a with requests := a.requests ++ [.createRequest] }
    | .discardRequest i => some { a with requests := a.requests.modify i (·.discardRequest) }
    | .checkAccess i => some (checkAccess a i)
    | .initListener => some (authorizationInitListener a)
    | .newRequest fut => some (newAuthorizationRequest a fut)
    | .stopListener =>
      a.listener.map fun listener =>
        let r := listener.stop authorizationEffects a.requests
        { requests := r.2.2, listener := some r.2.1 }
    | .listenerError ec =>
      a.listener.map fun listener =>
        let r := listener.setErrorCode authorizationEffects ec a.requests
        { requests := r.2, listener := some r.1 }
    | .verdict i verdict =>
      some { a with requests := a.requests.modify i (·.requestVerdict verdict) }
    | .free i => some { a with requests := a.requests.modify i (·.requestFree) }
    | .verdictEvent i => some { a with requests := a.requests.modify i (·.handleVerdict) }

def authorization : Machine Authorization AuthorizationEvent := ⟨⟨[], none⟩, authorizationStep⟩

end NabtoDevice
