import NabtoDevice.Spec.ClientConnection

/-! Sending of the CoAP server, `src/core/nc_coap_server.c`. The server has one send context
for all client connections. The connections and their DTLS layer are those of
`Spec.ClientConnection`; here each of their queued sends is marked as one of the CoAP
server or not. What the CoAP library answers comes with the events; it is assumed that it
only returns connections it got packets from and that were not removed. -/

namespace NabtoDevice

def atCoapStart : UInt8 := 0b01000000
def atCoapEnd : UInt8 := 0b01111111

structure CoapConnection where
  conn : NcClientConnection
  /-- For each send context in `sendList` whether it is the one of the CoAP server. -/
  coapSends : List Bool
  /-- The CoAP library knows the connection. -/
  inCoap : Bool
  deriving DecidableEq, Repr

structure CoapServer where
  isSending : Bool
  connections : List CoapConnection
  deriving DecidableEq, Repr

/-- The answer of `nabto_coap_server_next_event`; for a send with that of
`nabto_coap_server_get_connection_send` and whether `nabto_coap_server_handle_send` made a
packet. -/
inductive CoapServerNextEvent
  | send (connection : Option ℕ) (packet : Bool)
  | wait
  | nothing
  deriving DecidableEq, Repr

/-- `async_send_data` with the send context of the CoAP server. -/
def CoapConnection.asyncSendData (cc : CoapConnection) : CoapConnection :=
  { cc with
    conn := nmMbedtlsSrvAsyncSendData cc.conn ⟨false, npDtlsSrvDefaultChannelId⟩
    coapSends := if cc.conn.dtls.state = .closing then cc.coapSends else cc.coapSends ++ [true] }

/-- The data that `nm_mbedtls_srv_do_one` gives to `nc_client_connection_handle_data`. -/
def doOneData (conn : NcClientConnection) (env : SrvEnv) : Option (List UInt8) :=
  match conn.dtls.state, env.read with
  | .data, .data _ buffer => some buffer
  | _, _ => none

def receivedData (conn : NcClientConnection) : ClientConnectionEvent → Option (List UInt8)
  | .packet _ _ buffer env =>
    if buffer[0]? = some nabtoProtocolPrefixRendezvous ∧
      buffer[16]? = some ctRendezvousClientRequest
    then none else doOneData conn env
  | .timer env => doOneData conn env
  | .udpDone ok env => if conn.sentCb && ok then doOneData conn env else none
  | _ => none

/-- The data is for `nc_coap_server_handle_packet`. -/
def isCoapPacket (buffer : List UInt8) : Bool :=
  buffer.head?.any fun applicationType => atCoapStart ≤ applicationType &&
    applicationType ≤ atCoapEnd

/-- The send context that is taken from the list is the one of the CoAP server. -/
def CoapConnection.callsBack (cc : CoapConnection) (e : ClientConnectionEvent) : Bool :=
  takesSend cc.conn e && cc.coapSends.head? = some true

/-- The connection after a step that is not one of the CoAP server. All send contexts it
has put in the list are of streams and keep alive. -/
def CoapConnection.advance (cc : CoapConnection) (e : ClientConnectionEvent)
    (conn : NcClientConnection) : CoapConnection :=
  { cc with
    conn
    coapSends :=
      if takesSend cc.conn e then cc.coapSends.tail
      else cc.coapSends ++
        List.replicate (conn.dtls.sendList.length - cc.conn.dtls.sendList.length) false }

namespace CoapServer

def knows (ctx : CoapServer) (c : ℕ) : Bool := ctx.connections[c]?.any (·.inCoap)

/-- `nc_coap_server_event` and `nc_coap_server_handle_send`. The return value of
`async_send_data` is not looked at. The answers that are left are those to later calls. -/
def event (ctx : CoapServer) : List CoapServerNextEvent → CoapServer × List CoapServerNextEvent
  | [] => (ctx, [])
  | .nothing :: answers | .wait :: answers => (ctx, answers)
  | .send connection packet :: answers =>
    if ctx.isSending then (ctx, answers)
    else
      match connection.filter ctx.knows with
      | none => ctx.event answers
      | some c =>
        if packet = false then ctx.event answers
        else
          ({ isSending := true, connections := ctx.connections.modify c (·.asyncSendData) }, answers)

/-- `nc_coap_server_send_to_callback`. -/
def sendToCallback (ctx : CoapServer) (answers : List CoapServerNextEvent) :
    CoapServer × List CoapServerNextEvent :=
  event { ctx with isSending := false } answers

/-- The loop of `nm_mbedtls_srv_destroy_connection` calls back all send contexts. Nothing
is put in the list meanwhile, as the connection is closing. -/
def flush (ctx : CoapServer) : List Bool → List CoapServerNextEvent → CoapServer
  | [], _ => ctx
  | false :: sends, answers => ctx.flush sends answers
  | true :: sends, answers =>
    let r := ctx.sendToCallback answers
    r.1.flush sends r.2

/-- `nc_client_connection_destroy_connection`: first the CoAP server forgets the
connection, then the DTLS connection is destroyed. -/
def destroyConnection (ctx : CoapServer) (c : ℕ) (cc : CoapConnection)
    (answers : List CoapServerNextEvent) : CoapServer :=
  let cc' := { cc with
    conn := { ncClientConnectionDestroyConnection cc.conn with
      dtls := { cc.conn.dtls with state := .closing, sendList := [] } }
    coapSends := []
    inCoap := false }
  flush { ctx with connections := ctx.connections.set c cc' } cc.coapSends answers

/-- What the CoAP server does in a step of the connection `c`, which is `cc` before and
`conn` after it. -/
def connectionStep (ctx : CoapServer) (c : ℕ) (cc : CoapConnection) (e : ClientConnectionEvent)
    (conn : NcClientConnection) (answers : List CoapServerNextEvent) : CoapServer :=
  if conn.destroyed then ctx.destroyConnection c { cc with conn } answers
  else
    let cc' := cc.advance e conn
    if cc.callsBack e then
      (sendToCallback { ctx with connections := ctx.connections.set c cc' } answers).1
    else if (receivedData cc.conn e).any isCoapPacket then
      (event { ctx with
        connections := ctx.connections.set c { cc' with inCoap := true } } answers).1
    else { ctx with connections := ctx.connections.set c cc' }

end CoapServer

inductive CoapServerEvent
  | openConnection (id : List UInt8) (sock ep : ℕ) (env : SrvEnv)
  | connection (c : ℕ) (e : ClientConnectionEvent) (answers : List CoapServerNextEvent)
  /-- The notify event or the timer of the CoAP server. -/
  | coapEvent (answers : List CoapServerNextEvent)
  /-- From `nc_client_connection_dispatch_deinit`. -/
  | destroyConnection (c : ℕ) (answers : List CoapServerNextEvent)
  deriving DecidableEq, Repr

def coapServerStep (ctx : CoapServer) : CoapServerEvent → Option CoapServer
  | .openConnection id sock ep env =>
    some { ctx with connections :=
      ctx.connections ++ [⟨ncClientConnectionOpen id sock ep env, [], false⟩] }
  | .connection c e answers =>
    ctx.connections[c]?.bind fun cc =>
      (clientConnectionStep cc.conn e).map fun conn => ctx.connectionStep c cc e conn answers
  | .coapEvent answers => some (ctx.event answers).1
  | .destroyConnection c answers =>
    ctx.connections[c]?.bind fun cc =>
      if cc.conn.destroyed then none else some (ctx.destroyConnection c cc answers)

def coapServer : Machine CoapServer CoapServerEvent := ⟨⟨false, []⟩, coapServerStep⟩

end NabtoDevice
