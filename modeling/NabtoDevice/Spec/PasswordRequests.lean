import NabtoDevice.Spec.Listener
import NabtoDevice.Spec.Spake2

/-! The way of a `p2p/pwd-auth/1` CoAP request through the password listener of
`src/api/nabto_device_password_authentication.c`: from `nc_spake2_handle_coap_1` to the
listener's queue, to the application, and with `nc_spake2_password_ready` to its answer.
Requests of any number of connections are numbered as they come. The connection a request
comes from, and what mbedtls computes, are part of the events. -/

namespace NabtoDevice

structure PwdAuthRequest where
  responses : List CoapResponse
  /-- Calls of `nabto_coap_server_request_free` and of `nc_spake2_password_request_free`. -/
  coapFreed : ℕ
  passwordFreed : ℕ
  handled : Bool
  /-- The application got the request and has not freed it. -/
  held : Bool
  deriving DecidableEq, Repr

/-- The module's state outside the listener: the requests, and whether the core has the
password request handler. -/
structure PasswordModule where
  requests : List PwdAuthRequest
  passwordRequestHandler : Bool
  deriving DecidableEq, Repr

/-- The listener is the one the handler was set with; those before it have failed. -/
structure PasswordRequests where
  core : PasswordModule
  listener : Option (Listener ℕ ℕ)
  deriving DecidableEq, Repr

/-- The response of `nc_spake2_password_ready`. -/
def passwordReadyResponse (hasConnection : Bool) (r : CalculatedKey) : CoapResponse :=
  if !hasConnection then coapErrorResponse 5 0
  else if r.statusOk then coapCreated r.s else coapErrorResponse 5 0

/-- A response is made and both requests are freed, at the end of
`nc_spake2_handle_coap_1` and of `nc_spake2_password_ready`. -/
def PwdAuthRequest.finish (r : PwdAuthRequest) (response : CoapResponse) : PwdAuthRequest :=
  { r with
    responses := r.responses ++ [response]
    coapFreed := r.coapFreed + 1
    passwordFreed := r.passwordFreed + 1 }

def PwdAuthRequest.new : PwdAuthRequest := ⟨[], 0, 0, false, false⟩

/-- `nabto_device_password_authentication_listener_resolve_event`. -/
def passwordListenerResolveEvent (call : ListenerCall ℕ ℕ) (m : PasswordModule) :
    NpErrorCode × PasswordModule :=
  match call.ec with
  | .aborted => (.ok, { m with passwordRequestHandler := false })
  -- Nothing is done for the other codes, `NABTO_EC_STOPPED` among them.
  | _ => (.ok, m)

/-- The request reaches the application through `genericFutureResolverData`. -/
def passwordEffects : ListenerEffects PasswordModule ℕ ℕ where
  cb := passwordListenerResolveEvent
  genericFutureResolverData i m :=
    { m with requests := m.requests.modify i fun r => { r with held := true } }
  futureResolve _ _ m := m

/-- `password_request_handler`: what it returns is ignored by the caller. -/
def passwordRequestHandler (p : PasswordRequests) (i : ℕ) (allocated : Bool) :
    NpErrorCode × PasswordRequests :=
  if !allocated then (.outOfMemory, p)
  else
    -- The handler is only set together with a listener.
    match p.listener with
    | none => (.invalidState, p)
    | some listener =>
      let r := listener.addEvent passwordEffects i p.core
      (r.1, ⟨r.2.2, some r.2.1⟩)

/-- `nc_spake2_handle_coap_1` for a new CoAP request of the connection `conn`. -/
def handlePwdAuth1 (p : PasswordRequests) (conn : PasswordAuthentication)
    (request : PwdAuth1Request) (allocated : Bool) : PasswordRequests :=
  let i := p.core.requests.length
  match pwdAuth1Response p.core.passwordRequestHandler conn.countRequest request with
  | .error response =>
    { p with core.requests := p.core.requests ++ [PwdAuthRequest.new.finish response] }
  | .ok _ =>
    (passwordRequestHandler
      { p with core.requests := p.core.requests ++ [.new] } i allocated).2

/-- `nabto_device_password_authentication_request_init_listener` with a listener that is
new or has failed before. -/
def passwordInitListener (p : PasswordRequests) : PasswordRequests :=
  if p.core.passwordRequestHandler then p
  else ⟨{ p.core with passwordRequestHandler := true }, some Listener.new.init⟩

/-- `nabto_device_listener_new_password_authentication_request`. -/
def newPasswordRequest (p : PasswordRequests) (fut : ℕ) : PasswordRequests :=
  match p.listener with
  | none => p
  | some listener =>
    if listener.ec ≠ .ok then p
    else
      let r := listener.initFuture fut
      if r.1 ≠ .ok then p
      else
        let t := r.2.tryResolve passwordEffects p.core
        ⟨t.2, some t.1⟩

/-- `nabto_device_password_authentication_request_set_password`. -/
def PwdAuthRequest.setPassword (r : PwdAuthRequest) (response : CoapResponse) : PwdAuthRequest :=
  if r.handled then r else { r.finish response with handled := true }

/-- `nabto_device_password_authentication_request_free`. -/
def PwdAuthRequest.requestFree (r : PwdAuthRequest) (response : CoapResponse) : PwdAuthRequest :=
  { (if !r.handled then r.finish response else r) with held := false }

inductive PasswordRequestsEvent
  | pwdAuth1 (conn : PasswordAuthentication) (request : PwdAuth1Request) (allocated : Bool)
  | initListener
  | newRequest (fut : ℕ)
  | stopListener
  | listenerError (ec : NpErrorCode)
  | setPassword (i : ℕ) (hasConnection : Bool) (r : CalculatedKey)
  | free (i : ℕ) (hasConnection : Bool) (r : CalculatedKey)
  deriving DecidableEq, Repr

/-- The application uses requests it got and has not freed. -/
def passwordRequestsAllows (p : PasswordRequests) : PasswordRequestsEvent → Bool
  | .setPassword i _ _ | .free i _ _ => p.core.requests[i]?.any (·.held)
  | .listenerError ec => ec ≠ .ok
  | .pwdAuth1 _ _ _ | .initListener | .newRequest _ | .stopListener => true

def passwordRequestsStep (p : PasswordRequests) (e : PasswordRequestsEvent) :
    Option PasswordRequests :=
  if passwordRequestsAllows p e = false then none
  else
    match e with
    | .pwdAuth1 conn request allocated => some (handlePwdAuth1 p conn request allocated)
    | .initListener => some (passwordInitListener p)
    | .newRequest fut => some (newPasswordRequest p fut)
    | .stopListener =>
      p.listener.map fun listener =>
        let r := listener.stop passwordEffects p.core
        ⟨r.2.2, some r.2.1⟩
    | .listenerError ec =>
      p.listener.map fun listener =>
        let r := listener.setErrorCode passwordEffects ec p.core
        ⟨r.2, some r.1⟩
    | .setPassword i hasConnection r =>
      let response := passwordReadyResponse hasConnection r
      some { p with core.requests := p.core.requests.modify i (·.setPassword response) }
    | .free i hasConnection r =>
      let response := passwordReadyResponse hasConnection r
      some { p with core.requests := p.core.requests.modify i (·.requestFree response) }

def passwordRequests : Machine PasswordRequests PasswordRequestsEvent :=
  ⟨⟨⟨[], false⟩, none⟩, passwordRequestsStep⟩

end NabtoDevice
