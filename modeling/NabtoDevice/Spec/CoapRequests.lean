import NabtoDevice.Spec.Listener
import NabtoDevice.Spec.Spake2

/-! CoAP requests to the resources of the application, `src/api/nabto_device_coap.c`. Every
resource has its own listener. A request of the CoAP server is wrapped, queued on the
listener of its resource and handed to the application, which responds and frees it. The
requests of all resources are numbered as they come. -/

namespace NabtoDevice

/-- A `nabto_coap_server_request` and the `nabto_device_coap_request` around it. -/
structure ServerRequest where
  /-- The codes of the responses, with the message of an error response. -/
  responses : List (CoapCode × Option String)
  /-- Calls of `nabto_coap_server_request_free`. -/
  released : ℕ
  /-- The wrapper was allocated, and how often it was freed. -/
  wrapped : Bool
  wrapperFreed : ℕ
  /-- It was stored for the application. -/
  delivered : Bool
  /-- The application has not freed it yet. -/
  held : Bool
  deriving DecidableEq, Repr

namespace ServerRequest

def new (wrapped : Bool) : ServerRequest := ⟨[], 0, wrapped, 0, false, false⟩

/-- `nabto_coap_server_send_error_response`. -/
def errorResponse (r : ServerRequest) (cls detail : ℕ) (message : String) : ServerRequest :=
  { r with responses := r.responses ++ [(⟨cls, detail⟩, some message)] }

def requestFree (r : ServerRequest) : ServerRequest := { r with released := r.released + 1 }

def freeWrapper (r : ServerRequest) : ServerRequest := { r with wrapperFreed := r.wrapperFreed + 1 }

/-- What `nabto_device_coap_resource_handler` does with a request it cannot queue. -/
def refuse (r : ServerRequest) : ServerRequest :=
  let r := (r.errorResponse 5 0 "Insufficient resources").requestFree
  if r.wrapped then r.freeWrapper else r

/-- What the listener callback does with a request that does not reach the application. -/
def unavailable (r : ServerRequest) : ServerRequest :=
  (r.errorResponse 5 3 "Handler unavailable").freeWrapper

/-- `nabto_device_coap_request_free`. -/
def deviceRequestFree (r : ServerRequest) : ServerRequest :=
  { r.requestFree.freeWrapper with held := false }

end ServerRequest

/-- What the callback of a listener works on: the requests and its own resource. -/
structure CoapResourceData where
  requests : List ServerRequest
  /-- `futureRequest` is not `NULL`. -/
  futureRequest : Bool
  /-- The resource is known to the CoAP server. -/
  added : Bool
  deriving DecidableEq, Repr

/-- An operation on the request that is passed as event data. -/
def CoapResourceData.onRequest (d : CoapResourceData) (eventData : Option ℕ)
    (f : ServerRequest → ServerRequest) : CoapResourceData :=
  match eventData with
  | none => d
  | some i => { d with requests := d.requests.modify i f }

/-- `nabto_device_coap_listener_callback`. -/
def coapListenerCallback (call : ListenerCall ℕ ℕ) (d : CoapResourceData) :
    NpErrorCode × CoapResourceData :=
  match call.ec with
  | .ok =>
    if d.futureRequest then
      let d := d.onRequest call.eventData fun r => { r with delivered := true, held := true }
      (.ok, { d with futureRequest := false })
    else (.unknown, d.onRequest call.eventData (·.unavailable))
  | .aborted => (.aborted, { d with added := false })
  | ec => (ec, d.onRequest call.eventData (·.unavailable))

def coapEffects : ListenerEffects CoapResourceData ℕ ℕ where
  cb := coapListenerCallback
  genericFutureResolverData _ d := d
  futureResolve _ _ d := d

structure CoapResource where
  listener : Listener ℕ ℕ
  futureRequest : Bool
  added : Bool
  deriving DecidableEq, Repr

structure CoapRequests where
  requests : List ServerRequest
  resources : List CoapResource
  deriving DecidableEq, Repr

def CoapRequests.data (c : CoapRequests) (res : CoapResource) : CoapResourceData :=
  ⟨c.requests, res.futureRequest, res.added⟩

/-- The resource `k` and the requests after an operation on its listener. -/
def CoapRequests.store (c : CoapRequests) (k : ℕ) (r : Listener ℕ ℕ × CoapResourceData) :
    CoapRequests :=
  ⟨r.2.requests, c.resources.set k ⟨r.1, r.2.futureRequest, r.2.added⟩⟩

/-- `nabto_device_coap_resource_handler`, with the number the new request gets. -/
def coapResourceHandler (c : CoapRequests) (k : ℕ) (res : CoapResource) (allocated : Bool) :
    CoapRequests :=
  let i := c.requests.length
  if !allocated then { c with requests := c.requests ++ [(ServerRequest.new false).refuse] }
  else
    let c : CoapRequests := { c with requests := c.requests ++ [.new true] }
    let r := res.listener.addEvent coapEffects i (c.data res)
    let c := c.store k r.2
    if r.1 ≠ .ok then { c with requests := c.requests.modify i (·.refuse) } else c

/-- `nabto_device_coap_init_listener` with a new listener, when the resource can be added. -/
def coapInitListener (c : CoapRequests) : CoapRequests :=
  { c with resources := c.resources ++ [⟨Listener.new.init, false, true⟩] }

/-- `nabto_device_listener_new_coap_request`. -/
def newCoapRequest (c : CoapRequests) (k : ℕ) (res : CoapResource) (fut : ℕ) : CoapRequests :=
  if res.listener.ec ≠ .ok then c
  else
    let r := res.listener.initFuture fut
    if r.1 ≠ .ok then c
    else c.store k (r.2.tryResolve coapEffects { c.data res with futureRequest := true })

inductive CoapRequestsEvent
  | initListener
  | request (k : ℕ) (allocated : Bool)
  | newRequest (k fut : ℕ)
  | stopListener (k : ℕ)
  | listenerError (k : ℕ) (ec : NpErrorCode)
  | respond (i : ℕ) (code : CoapCode) (message : Option String)
  | free (i : ℕ)
  deriving DecidableEq, Repr

/-- The CoAP server calls the handlers of resources it knows, and the application uses
requests it got and has not freed. -/
def coapRequestsAllows (c : CoapRequests) : CoapRequestsEvent → Bool
  | .request k _ => c.resources[k]?.any (·.added)
  | .respond i _ _ | .free i => c.requests[i]?.any (·.held)
  | .listenerError _ ec => ec ≠ .ok
  | .initListener | .newRequest _ _ | .stopListener _ => true

def coapRequestsStep (c : CoapRequests) (e : CoapRequestsEvent) : Option CoapRequests :=
  if coapRequestsAllows c e = false then none
  else
    match e with
    | .initListener => some (coapInitListener c)
    | .request k allocated =>
      c.resources[k]?.map fun res => coapResourceHandler c k res allocated
    | .newRequest k fut => c.resources[k]?.map fun res => newCoapRequest c k res fut
    | .stopListener k =>
      c.resources[k]?.map fun res => c.store k (res.listener.stop coapEffects (c.data res)).2
    | .listenerError k ec =>
      c.resources[k]?.map fun res =>
        c.store k (res.listener.setErrorCode coapEffects ec (c.data res))
    | .respond i code message =>
      some { c with requests := c.requests.modify i fun r =>
        { r with responses := r.responses ++ [(code, message)] } }
    | .free i => some { c with requests := c.requests.modify i (·.deviceRequestFree) }

def coapRequests : Machine CoapRequests CoapRequestsEvent := ⟨⟨[], []⟩, coapRequestsStep⟩

end NabtoDevice
