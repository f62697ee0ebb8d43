import NabtoDevice.Spec.Listener
import NabtoDevice.Spec.StreamManager

/-! The functions that initialise a listener for streams or for a CoAP resource:
`nabto_device_stream_init_listener` and `nabto_device_stream_init_listener_ephemeral` of
`src/api/nabto_device_stream.c` and `nabto_device_coap_init_listener` of
`src/api/nabto_device_coap.c`. The heap is the list of the addresses that are allocated, and a lock
of the mutex that is held never returns. `nabto_coap_server_add_resource` belongs to the CoAP
library: what it returns comes with the call, and when it fails it adds nothing. -/

namespace NabtoDevice

inductive NabtoDeviceListenerType
  | none
  | connectionEvents
  | deviceEvents
  | streams
  | coap
  | authorization
  | passwordRequests
  deriving DecidableEq, Repr

structure NabtoDeviceListener (α φ : Type) extends Listener α φ where
  type : NabtoDeviceListenerType
  /-- The address of the context, `none` for NULL. -/
  listenerData : Option ℕ
  deriving DecidableEq, Repr

inductive NabtoDeviceCoapMethod
  | get
  | post
  | put
  | delete
  deriving DecidableEq, Repr

/-- The errors of the CoAP library that are told apart. -/
inductive NabtoCoapError
  | ok
  | outOfMemory
  | noConnection
  | invalidParameter
  | other
  deriving DecidableEq, Repr

def nabtoDeviceCoapErrorModuleToApi : NabtoCoapError → NpErrorCode
  | .ok => .ok
  | .outOfMemory => .outOfMemory
  | .noConnection => .aborted
  | .invalidParameter => .invalidArgument
  | .other => .unknown

structure NabtoCoapResource where
  method : NabtoDeviceCoapMethod
  pathSegments : List String
  handlerData : ℕ
  deriving DecidableEq, Repr

variable {α φ : Type}

def nabtoDeviceListenerNew : NabtoDeviceListener α φ :=
  { toListener := Listener.new, type := .none, listenerData := none }

def nabtoDeviceListenerInit (listener : NabtoDeviceListener α φ) (type : NabtoDeviceListenerType)
    (listenerData : ℕ) : NpErrorCode × NabtoDeviceListener α φ :=
  (.ok, { toListener := listener.toListener.init, type, listenerData := some listenerData })

structure ListenerDevice (α φ : Type) where
  eventMutex : Bool := false
  heap : List ℕ := []
  listeners : List (NabtoDeviceListener α φ)
  streamManager : NcStreamManager
  resources : List NabtoCoapResource := []
  deriving DecidableEq, Repr

namespace ListenerDevice

def lock (dev : ListenerDevice α φ) : Option (ListenerDevice α φ) :=
  if dev.eventMutex then none else some { dev with eventMutex := true }

def unlock (dev : ListenerDevice α φ) : ListenerDevice α φ := { dev with eventMutex := false }

def calloc (dev : ListenerDevice α φ) (context : ℕ) : ListenerDevice α φ :=
  { dev with heap := context :: dev.heap }

def free (dev : ListenerDevice α φ) (context : ℕ) : ListenerDevice α φ :=
  { dev with heap := dev.heap.erase context }

def setListener (dev : ListenerDevice α φ) (i : ℕ) (listener : NabtoDeviceListener α φ) :
    ListenerDevice α φ :=
  { dev with listeners := dev.listeners.set i listener }

end ListenerDevice

/-- What both functions for streams do. `context` is what `calloc` returns, and the draws are those
for an ephemeral port. The failing paths do not unlock the mutex. -/
def streamInitListener (dev : ListenerDevice α φ) (i : ℕ) (type : UInt32) (context : Option ℕ)
    (draws : Fin 10 → UInt32) : Option (NpErrorCode × ListenerDevice α φ) :=
  match context with
  | none => some (.outOfMemory, dev)
  | some context => do
    let dev ← (dev.calloc context).lock
    let listener ← dev.listeners[i]?
    let (ec, listener) := nabtoDeviceListenerInit listener .streams context
    let dev := dev.setListener i listener
    if ec ≠ .ok then return (ec, dev.free context)
    let (ec, streamManager) := ncStreamManagerAddListener dev.streamManager type.toNat draws
    if ec ≠ .ok then return (ec, dev.free context)
    return (.ok, { dev with streamManager }.unlock)

def nabtoDeviceStreamInitListener (dev : ListenerDevice α φ) (i : ℕ) (type : UInt32)
    (context : Option ℕ) (draws : Fin 10 → UInt32) : Option (NpErrorCode × ListenerDevice α φ) :=
  streamInitListener dev i type context draws

/-- The port comes with the result when there is one; it is the latest listener's. -/
def nabtoDeviceStreamInitListenerEphemeral (dev : ListenerDevice α φ) (i : ℕ) (context : Option ℕ)
    (draws : Fin 10 → UInt32) : Option (NpErrorCode × Option ℕ × ListenerDevice α φ) :=
  (streamInitListener dev i 0 context draws).map fun r =>
    (r.1, if r.1 = .ok then r.2.streamManager.listeners.getLast? else none, r.2)

def nabtoDeviceCoapInitListener (dev : ListenerDevice α φ) (i : ℕ) (method : NabtoDeviceCoapMethod)
    (pathSegments : List String) (context : Option ℕ) (err : NabtoCoapError) :
    Option (NpErrorCode × ListenerDevice α φ) :=
  match context with
  | none => some (.outOfMemory, dev)
  | some context => do
    let dev ← (dev.calloc context).lock
    let listener ← dev.listeners[i]?
    let (ec, listener) := nabtoDeviceListenerInit listener .coap context
    let dev := dev.setListener i listener
    if ec ≠ .ok then return (ec, (dev.free context).unlock)
    if err ≠ .ok then return (nabtoDeviceCoapErrorModuleToApi err, (dev.free context).unlock)
    let resource : NabtoCoapResource := ⟨method, pathSegments, context⟩
    return (.ok, { dev with resources := dev.resources ++ [resource] }.unlock)

inductive InitListenerCall
  | stream (type : UInt32) (draws : Fin 10 → UInt32)
  | streamEphemeral (draws : Fin 10 → UInt32)
  | coap (method : NabtoDeviceCoapMethod) (pathSegments : List String) (err : NabtoCoapError)

/-- The call on the listener `i`, without the port of an ephemeral one. -/
def initListener (dev : ListenerDevice α φ) (i : ℕ) (context : Option ℕ) :
    InitListenerCall → Option (NpErrorCode × ListenerDevice α φ)
  | .stream type draws => nabtoDeviceStreamInitListener dev i type context draws
  | .streamEphemeral draws =>
    (nabtoDeviceStreamInitListenerEphemeral dev i context draws).map fun r => (r.1, r.2.2)
  | .coap method pathSegments err =>
    nabtoDeviceCoapInitListener dev i method pathSegments context err

end NabtoDevice
