import NabtoDevice.Spec.ClientConnection
import NabtoDevice.Lib.Traced

/-! The dispatcher of the client connections (`src/core/nc_client_connection_dispatch.c`)
with the connections in its slots. A datagram lies at the start of the receive buffer of
its socket and is followed there by whatever an earlier one left, so the functions that
get it read a memory; their reads are recorded. -/

namespace NabtoDevice

def mbedtlsSslMsgHandshake : UInt8 := 22

/-- A datagram in the receive buffer. -/
structure Datagram where
  bytes : List UInt8
  stale : ℕ → UInt8 := fun _ => 0
  small : bytes.length < 2 ^ 16 := by decide

def Datagram.mem (d : Datagram) (i : ℕ) : UInt8 := d.bytes.getD i (d.stale i)

def Datagram.bufferSize (d : Datagram) : UInt16 := UInt16.ofNat d.bytes.length

/-- The bytes of a connection id that name the connection: all but the protocol prefix and
the channel. -/
def middleBytes (id : List UInt8) : List UInt8 := (id.drop 1).take 14

/-- The test for a rendezvous request in `nc_client_connection_handle_packet`. -/
def isRendezvousRequest (d : Datagram) : Traced Bool :=
  if d.bufferSize ≥ 17 then do
    let first ← Traced.readPlace d.mem 0
    if first = nabtoProtocolPrefixRendezvous then do
      let type ← Traced.readPlace d.mem 16
      return type == ctRendezvousClientRequest
    else return false
  else return false

/-- `nc_client_connection_handle_packet` on the receive buffer, with the length of the packet
it passes on to DTLS. -/
def handlePacketInBuffer (conn : NcClientConnection) (sock ep : ℕ) (d : Datagram) (env : SrvEnv) :
    Traced (NcClientConnection × Option UInt16) := do
  let rendezvous ← isRendezvousRequest d
  if rendezvous then return (conn, none)
  else do
    let channelId ← Traced.readPlace d.mem 15
    let _ ← Traced.readBlock d.mem 16 (d.bufferSize.toNat - 16)
    return (nmMbedtlsSrvHandlePacket (conn.seenOn channelId sock ep) channelId env,
      some (d.bufferSize - 16))

/-- `nc_device_next_connection_ref`: the reference, if the counter has not wrapped, and the
counter. -/
def ncDeviceNextConnectionRef (prev : UInt64) : Option UInt64 × UInt64 :=
  let next := prev + 1
  if prev > next then (none, next) else (some next, next)

/-- What the initializations in `nc_client_connection_open` return. -/
structure OpenEnv where
  keepAliveOk : Bool := true
  completionEventOk : Bool := true
  createConnectionOk : Bool := true
  srv : SrvEnv := {}
  deriving DecidableEq, Repr

def OpenEnv.allOk (env : OpenEnv) : Bool :=
  env.keepAliveOk && env.completionEventOk && env.createConnectionOk

structure DispatchedConnection where
  conn : NcClientConnection
  connectionRef : UInt64
  deriving DecidableEq, Repr

/-- `nc_client_connection_open` on the receive buffer: the connection and the length of the
packet passed on to DTLS, or `none` on an error. -/
def openInBuffer (ref : Option UInt64) (sock ep : ℕ) (d : Datagram) (env : OpenEnv) :
    Traced (Option (DispatchedConnection × UInt16)) := do
  let id ← Traced.readBlock d.mem 0 16
  match ref with
  | none => return none
  | some ref =>
    if !env.allOk then return none
    else do
      let _ ← Traced.readBlock d.mem 16 (d.bufferSize.toNat - 16)
      return some (⟨ncClientConnectionOpen id sock ep env.srv, ref⟩, d.bufferSize - 16)

structure ClientConnectionDispatch where
  /-- An element without a connection is not active. -/
  elms : List (Option DispatchedConnection)
  closeCb : Bool
  closing : Bool
  /-- The counter of the device. -/
  deviceConnectionRef : UInt64
  /-- What `nc_client_connection_dispatch_async_close` returned. -/
  closeResult : Option NpErrorCode
  closeCbCalls : ℕ
  openedAfterClose : ℕ
  deriving DecidableEq, Repr

def ncClientConnectionDispatchInit (maxConnections : ℕ) : ClientConnectionDispatch where
  elms := List.replicate maxConnections none
  closeCb := false
  closing := false
  deviceConnectionRef := 0
  closeResult := none
  closeCbCalls := 0
  openedAfterClose := 0

def ClientConnectionDispatch.hasActive (ctx : ClientConnectionDispatch) : Bool :=
  ctx.elms.any Option.isSome

def ncClientConnectionDispatchTryClose (ctx : ClientConnectionDispatch) :
    ClientConnectionDispatch :=
  if !ctx.hasActive && ctx.closeCb then { ctx with closeCbCalls := ctx.closeCbCalls + 1 } else ctx

/-- `envs` answers for the DTLS module when the connection at an index is closed. -/
def ncClientConnectionDispatchAsyncClose (ctx : ClientConnectionDispatch) (envs : ℕ → SrvEnv) :
    NpErrorCode × ClientConnectionDispatch :=
  let hasActive := ctx.hasActive
  let ctx := { ctx with
    closing := true
    elms := ctx.elms.mapIdx fun i elm => elm.map fun c =>
      { c with conn := nmMbedtlsSrvAsyncClose c.conn (envs i) } }
  if !hasActive then (.stopped, ctx) else (.ok, { ctx with closeCb := true })

/-- The first loop of `nc_client_connection_dispatch_handle_packet`, from index `i` on. -/
def findConnection (d : Datagram) :
    List (Option DispatchedConnection) → ℕ → Traced (Option (ℕ × DispatchedConnection))
  | [], _ => return none
  | none :: elms, i => findConnection d elms (i + 1)
  | some c :: elms, i => do
    let id ← Traced.readBlock d.mem 1 14
    if id = middleBytes c.conn.id then return some (i, c) else findConnection d elms (i + 1)

/-- A packet of no known connection opens a new one if it is a handshake packet and an
element is free. -/
def dispatchUnknown (ctx : ClientConnectionDispatch) (sock ep : ℕ) (d : Datagram) (env : OpenEnv) :
    Traced (ClientConnectionDispatch × Option UInt16) := do
  let type ← Traced.readPlace d.mem 16
  if type = mbedtlsSslMsgHandshake then
    match ctx.elms.findIdx? Option.isNone with
    | none => return (ctx, none)
    | some i => do
      let (ref, deviceConnectionRef) := ncDeviceNextConnectionRef ctx.deviceConnectionRef
      let opened ← openInBuffer ref sock ep d env
      match opened with
      | none => return ({ ctx with deviceConnectionRef }, none)
      | some (c, len) =>
        return ({ ctx with
          elms := ctx.elms.set i (some c)
          deviceConnectionRef
          openedAfterClose := if ctx.closing then ctx.openedAfterClose + 1
            else ctx.openedAfterClose }, some len)
  else return (ctx, none)

def ncClientConnectionDispatchHandlePacket (ctx : ClientConnectionDispatch) (sock ep : ℕ)
    (d : Datagram) (env : OpenEnv) : Traced (ClientConnectionDispatch × Option UInt16) := do
  let found ← findConnection d ctx.elms 0
  match found with
  | some (i, c) => do
    let (conn, len) ← handlePacketInBuffer c.conn sock ep d env.srv
    return ({ ctx with elms := ctx.elms.set i (some { c with conn }) }, len)
  | none => dispatchUnknown ctx sock ep d env

/-- The connection at index `i` is destroyed. -/
def ncClientConnectionDispatchCloseConnection (ctx : ClientConnectionDispatch) (i : ℕ) :
    ClientConnectionDispatch :=
  let ctx := { ctx with elms := ctx.elms.set i none }
  if ctx.closing then ncClientConnectionDispatchTryClose ctx else ctx

inductive DispatchEvent
  | packet (sock ep : ℕ) (d : Datagram) (env : OpenEnv)
  | connection (i : ℕ) (e : ClientConnectionEvent)
  | asyncClose (envs : ℕ → SrvEnv)

/-- A connection gets its packets from the dispatcher. -/
def ClientConnectionEvent.isPacket : ClientConnectionEvent → Bool
  | .packet .. => true
  | _ => false

/-- A packet that makes `memmove` copy a negative number of bytes has no defined effect.
`nc_device_close` calls `nc_client_connection_dispatch_async_close` at most once. -/
def dispatchStep (ctx : ClientConnectionDispatch) : DispatchEvent → Option ClientConnectionDispatch
  | .packet sock ep d env =>
    let handled := ncClientConnectionDispatchHandlePacket ctx sock ep d env
    if handled.defined then some handled.val.1 else none
  | .connection i e =>
    match ctx.elms[i]? with
    | some (some c) =>
      if e.isPacket then none
      else
        (clientConnectionStep c.conn e).map fun conn =>
          if conn.destroyed then ncClientConnectionDispatchCloseConnection ctx i
          else { ctx with elms := ctx.elms.set i (some { c with conn }) }
    | _ => none
  | .asyncClose envs =>
    if ctx.closing then none
    else
      let closed := ncClientConnectionDispatchAsyncClose ctx envs
      some { closed.2 with closeResult := some closed.1 }

def clientConnectionDispatch (maxConnections : ℕ) :
    Machine ClientConnectionDispatch DispatchEvent where
  init := ncClientConnectionDispatchInit maxConnections
  step := dispatchStep

end NabtoDevice
