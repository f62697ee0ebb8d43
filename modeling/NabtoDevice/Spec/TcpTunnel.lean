import NabtoDevice.Spec.TcpTunnelConnection

/-! The tunnel services of a device: `src/modules/tcp_tunnel/nm_tcp_tunnel.c`, the two CoAP
resources of `src/modules/tcp_tunnel/nm_tcp_tunnel_coap.c` that describe one service, and the
functions of `src/api/nabto_device_tcp_tunnelling.c`. Streams, CoAP requests and service objects
are numbered in the order in which they come. A request that waits for its authorization
remembers the service whose attributes it asked with; the code only has the `weakPtr` or the
id. -/

namespace NabtoDevice

structure NmTcpTunnelService where
  object : ℕ
  weakPtr : UInt64
  id : String
  type : String
  address : NpIpAddress
  port : UInt16
  streamPort : ℕ
  deriving DecidableEq, Repr

/-- What `encode_service` writes. -/
structure ServiceDescription where
  id : String
  type : String
  host : NpIpAddress
  port : UInt16
  streamPort : ℕ
  deriving DecidableEq, Repr

def encodeService (service : NmTcpTunnelService) : ServiceDescription :=
  ⟨service.id, service.type, service.address, service.port, service.streamPort⟩

inductive TunnelCoapAnswer
  | error (code : ℕ)
  | content (description : ServiceDescription)
  deriving DecidableEq, Repr

structure TunnelStreamRequest where
  stream : ℕ
  serviceWeakPtr : UInt64
  service : ℕ
  deriving DecidableEq, Repr

structure TunnelCoapRequest where
  request : ℕ
  id : Option String
  service : ℕ
  deriving DecidableEq, Repr

/-- How creating a connection goes: `nm_tcp_tunnel_connection_new` and the calls of
`nm_tcp_tunnel_connection_init`. -/
structure ConnectionInitEnv where
  connectionNew : Bool := true
  tcpCreate : NpErrorCode := .ok
  connectEvent : NpErrorCode := .ok
  readEvent : NpErrorCode := .ok
  writeEvent : NpErrorCode := .ok
  deriving DecidableEq, Repr

/-- A connection whose initialisation fails on the way keeps what was done until then. -/
def nmTcpTunnelConnectionInit (service : NmTcpTunnelService) (c : NmTcpTunnelConnection)
    (stream : ℕ) (env : ConnectionInitEnv) : NpErrorCode × NmTcpTunnelConnection :=
  if env.tcpCreate ≠ .ok then (env.tcpCreate, c)
  else
    let c := { c with
      stream := some stream, address := service.address, port := service.port
      service := some service.object }
    if env.connectEvent ≠ .ok then (env.connectEvent, c)
    else if env.readEvent ≠ .ok then (env.readEvent, c)
    else if env.writeEvent ≠ .ok then (env.writeEvent, c)
    else (.ok, { c with tcpReadEnded := false, streamReadEnded := false })

structure NmTcpTunnels where
  services : List NmTcpTunnelService := []
  weakPtrCounter : UInt64 := 1
  created : ℕ := 0
  streamRequests : List TunnelStreamRequest := []
  coapRequests : List TunnelCoapRequest := []
  /-- All connection objects, those that were freed too. -/
  connections : List NmTcpTunnelConnection := []
  offered : ℕ := 0
  /-- The streams released by the service; a connection has its own list. -/
  released : List ℕ := []
  coapReceived : ℕ := 0
  responses : List (ℕ × TunnelCoapAnswer) := []
  deriving DecidableEq, Repr

namespace NmTcpTunnels

def findService (t : NmTcpTunnels) (id : Option String) : Option NmTcpTunnelService :=
  id.bind fun id => t.services.find? fun service => service.id == id

def findServiceByWeakPtr (t : NmTcpTunnels) (weakPtr : UInt64) : Option NmTcpTunnelService :=
  t.services.find? fun service => service.weakPtr == weakPtr

/-- `nm_tcp_tunnel_service_create` and `nm_tcp_tunnel_service_init`; a service whose stream
listener cannot be added does not get into the list. -/
def serviceInit (t : NmTcpTunnels) (id type : String) (address : NpIpAddress) (port : UInt16)
    (listener : Option ℕ) : NmTcpTunnels :=
  let service := ⟨t.created, t.weakPtrCounter + 1, id, type, address, port, listener.getD 0⟩
  { t with
    weakPtrCounter := t.weakPtrCounter + 1, created := t.created + 1
    services := if listener.isSome then t.services ++ [service] else t.services }

/-- `nabto_device_add_tcp_tunnel_service`; the address is what `np_ip_address_read_v4` reads. -/
def addTcpTunnelService (t : NmTcpTunnels) (id type : String) (address : Option NpIpAddress)
    (port : UInt16) (listener : Option ℕ) : NmTcpTunnels :=
  match address with
  | some address => t.serviceInit id type address port listener
  | none => t

/-- `nm_tcp_tunnel_service_deinit`: the connections in the list of the service are stopped. -/
def serviceDeinit (t : NmTcpTunnels) (service : NmTcpTunnelService) : NmTcpTunnels :=
  { t with
    connections := t.connections.map fun c =>
      if c.service = some service.object then { c with service := none }.stopFromManager else c }

/-- `nm_tcp_tunnel_service_destroy_by_id`, with `none` for NABTO_EC_NOT_FOUND. -/
def serviceDestroyById (t : NmTcpTunnels) (id : Option String) : Option NmTcpTunnels :=
  (t.findService id).map fun service =>
    { t.serviceDeinit service with
      services := t.services.filter fun other => other.object != service.object }

/-- `nabto_device_remove_tcp_tunnel_service`. -/
def removeTcpTunnelService (t : NmTcpTunnels) (id : Option String) : NmTcpTunnels :=
  (t.serviceDestroyById id).getD t

def releaseStream (t : NmTcpTunnels) (stream : ℕ) : NmTcpTunnels :=
  { t with released := t.released ++ [stream] }

/-- `nm_tcp_tunnel_service_stream_listener_callback` with ec = OK; `authorization` tells whether the
authorization request could be made. -/
def serviceStreamListenerCallback (t : NmTcpTunnels) (service : NmTcpTunnelService)
    (authorization : Bool) : NmTcpTunnels :=
  let stream := t.offered
  let t := { t with offered := t.offered + 1 }
  if authorization then
    { t with streamRequests := t.streamRequests ++ [⟨stream, service.weakPtr, service.object⟩] }
  else t.releaseStream stream

def serviceStreamIamCallback (t : NmTcpTunnels) (r : TunnelStreamRequest) (allow : Bool)
    (env : ConnectionInitEnv) : NmTcpTunnels :=
  match t.findServiceByWeakPtr r.serviceWeakPtr with
  | none => t.releaseStream r.stream
  | some service =>
    if !allow then t.releaseStream r.stream
    else if !env.connectionNew then t.releaseStream r.stream
    else
      match nmTcpTunnelConnectionInit service {} r.stream env with
      | (.ok, c) => { t with connections := t.connections ++ [c.start] }
      | (_, c) => { t with connections := t.connections ++ [c.free] }

def respond (t : NmTcpTunnels) (request : ℕ) (answer : TunnelCoapAnswer) : NmTcpTunnels :=
  { t with responses := t.responses ++ [(request, answer)] }

/-- `get_service_action`, for `get_service` and `get_connect`. -/
def getServiceAction (t : NmTcpTunnels) (id : Option String) (authorization : Bool) :
    NmTcpTunnels :=
  let request := t.coapReceived
  let t := { t with coapReceived := t.coapReceived + 1 }
  match t.findService id with
  | none => t.respond request (.error 404)
  | some service =>
    if authorization then
      { t with coapRequests := t.coapRequests ++ [⟨request, id, service.object⟩] }
    else t.respond request (.error 500)

/-- The service is looked up again by its id. -/
def getServiceIam (t : NmTcpTunnels) (r : TunnelCoapRequest) (allow buffer payload : Bool) :
    NmTcpTunnels :=
  if !allow then t.respond r.request (.error 403)
  else
    match t.findService r.id with
    | none => t.respond r.request (.error 404)
    | some service =>
      if !buffer then t.respond r.request (.error 500)
      else if !payload then t.respond r.request (.error 500)
      else t.respond r.request (.content (encodeService service))

end NmTcpTunnels

inductive TcpTunnelEvent
  | addService (id type : String) (address : Option NpIpAddress) (port : UInt16)
  (listener : Option ℕ)
  | removeService (id : Option String)
  | streamOffered (service : ℕ) (authorization : Bool)
  /-- The verdict on the `i`-th stream that waits. -/
  | streamVerdict (i : ℕ) (allow : Bool) (env : ConnectionInitEnv)
  | coapRequest (id : Option String) (authorization : Bool)
  | coapVerdict (i : ℕ) (allow buffer payload : Bool)
  | connection (i : ℕ) (e : TunnelConnectionEvent)
  deriving DecidableEq, Repr

/-- A stream operation on NULL in a connection ends the process. -/
def tcpTunnelsStep (t : NmTcpTunnels) (e : TcpTunnelEvent) : Option NmTcpTunnels :=
  if t.connections.any fun c => !c.nullCalls.isEmpty then none
  else match e with
    | .addService id type address port listener =>
      some (t.addTcpTunnelService id type address port listener)
    | .removeService id => some (t.removeTcpTunnelService id)
    | .streamOffered object authorization =>
      (t.services.find? fun service => service.object == object).map fun service =>
        t.serviceStreamListenerCallback service authorization
    | .streamVerdict i allow env =>
      t.streamRequests[i]?.map fun r =>
        { t with streamRequests := t.streamRequests.eraseIdx i }.serviceStreamIamCallback r allow env
    | .coapRequest id authorization => some (t.getServiceAction id authorization)
    | .coapVerdict i allow buffer payload =>
      t.coapRequests[i]?.map fun r =>
        { t with coapRequests := t.coapRequests.eraseIdx i }.getServiceIam r allow buffer payload
    | .connection i e =>
      if e = .stop then none
      else t.connections[i]?.bind fun c =>
        (tunnelConnectionStep c e).map fun c' => { t with connections := t.connections.set i c' }

def tcpTunnels : Machine NmTcpTunnels TcpTunnelEvent := ⟨{}, tcpTunnelsStep⟩

end NabtoDevice
