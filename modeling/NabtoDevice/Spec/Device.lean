import NabtoDevice.Spec.DeviceFutures
import NabtoDevice.Spec.UdpDispatch
import NabtoDevice.Spec.ClosedAttacher

/-! The core of the device (`src/core/nc_device.c`): its three sockets, the client
connections and the attacher. The UDP module binds a socket when it is asked to and reports to
`socketBoundCompletionEvent`. A packet may arrive at any time on a socket whose receive loop was
started, also after the socket is aborted, when the event of the loop was posted before. -/

namespace NabtoDevice.Core

/-- `nc_udp_dispatch_context` and its socket. -/
structure NcUdpDispatchContext where
  /-- `nc_udp_dispatch_start_recv` was called. -/
  receiving : Bool := false
  aborted : Bool := false
  stun : Bool := false
  attacher : Bool := false
  cliConn : Bool := false
  deriving DecidableEq, Repr

inductive NcDeviceSocket
  | udp
  | localUdp
  | secondaryUdp
  deriving DecidableEq, Repr

structure NcDeviceContext where
  state : NcDeviceState := .setup
  udp : NcUdpDispatchContext := {}
  localUdp : NcUdpDispatchContext := {}
  secondaryUdp : NcUdpDispatchContext := {}
  /-- The bind that `socketBoundCompletionEvent` is for. -/
  binding : Option NcDeviceSocket := none
  clientConnect : ClientConnectionDispatch
  attacher : NcAttachContext := ncAttacherInit
  enableMdns : Bool := false
  mdnsPublished : Bool := false
  rendezvousUdp : Bool := false
  stunSockets : Bool := false
  closeCb : Bool := false
  closeCbCalls : ℕ := 0
  /-- The calls of `nc_device_close` that returned `NABTO_EC_OK`. -/
  closesAccepted : ℕ := 0
  deriving DecidableEq, Repr

def ncDeviceInit (maxConnections : ℕ) : NcDeviceContext where
  clientConnect := ncClientConnectionDispatchInit maxConnections

def NcDeviceContext.socket (dev : NcDeviceContext) : NcDeviceSocket → NcUdpDispatchContext
  | .udp => dev.udp
  | .localUdp => dev.localUdp
  | .secondaryUdp => dev.secondaryUdp

def ncDeviceSecondaryUdpBoundCb (dev : NcDeviceContext) (ec : NpErrorCode) : NcDeviceContext :=
  if dev.state = .stopped ∨ ec ≠ .ok then dev
  else { dev with
    udp := { dev.udp with stun := true }
    secondaryUdp := { dev.secondaryUdp with receiving := true, stun := true }
    stunSockets := true }

def ncDeviceLocalUdpBoundCb (dev : NcDeviceContext) (ec : NpErrorCode) : NcDeviceContext :=
  if dev.state = .stopped ∨ ec ≠ .ok then dev
  else { dev with
    localUdp := { dev.localUdp with receiving := true, cliConn := true }
    mdnsPublished := dev.enableMdns
    binding := some .secondaryUdp }

/-- `nc_attacher_start` registers the attacher with the socket. -/
def ncDeviceUdpBoundCb (dev : NcDeviceContext) (ec : NpErrorCode) : NcDeviceContext :=
  if dev.state = .stopped then dev
  else if ec ≠ .ok then { dev with state := .stopped }
  else { dev with
    udp := { dev.udp with receiving := true, cliConn := true, attacher := true }
    rendezvousUdp := true
    attacher := ncAttacherStart dev.attacher
    binding := some .localUdp }

def ncDeviceStart (dev : NcDeviceContext) (enableMdns : Bool) : NcDeviceContext :=
  { dev with
    state := .running, enableMdns, binding := some .udp
    clientConnect := { dev.clientConnect with deviceConnectionRef := 0 } }

def ncUdpDispatchAbort (ctx : NcUdpDispatchContext) : NcUdpDispatchContext :=
  { ctx with aborted := true }

def ncDeviceAttachClosedCb (dev : NcDeviceContext) : NcDeviceContext :=
  let dev := { dev with
    udp := ncUdpDispatchAbort dev.udp
    localUdp := ncUdpDispatchAbort dev.localUdp
    secondaryUdp := ncUdpDispatchAbort dev.secondaryUdp }
  if dev.closeCb then { dev with closeCb := false, closeCbCalls := dev.closeCbCalls + 1 } else dev

def ncDeviceClientConnectionsClosedCb (dev : NcDeviceContext) (env : AttacherEnv) :
    NcDeviceContext :=
  { dev with attacher := ncAttacherAsyncClose dev.attacher env }

def ncDeviceStop (dev : NcDeviceContext) (env : AttacherEnv) : NcDeviceContext :=
  { dev with
    state := .stopped
    udp := ncUdpDispatchAbort dev.udp
    secondaryUdp := ncUdpDispatchAbort dev.secondaryUdp
    rendezvousUdp := false
    stunSockets := false
    attacher := ncAttacherStop dev.attacher env }

def ncDeviceClose (dev : NcDeviceContext) (envs : ℕ → SrvEnv) (env : AttacherEnv) :
    NpErrorCode × NcDeviceContext :=
  if dev.state ≠ .running then (.invalidState, dev)
  else
    let closed := ncClientConnectionDispatchAsyncClose dev.clientConnect envs
    let dev := { dev with
      closeCb := true, state := .stopped, closesAccepted := dev.closesAccepted + 1
      clientConnect := { closed.2 with closeResult := some closed.1 } }
    (.ok, if closed.1 = .stopped then ncDeviceClientConnectionsClosedCb dev env else dev)

/-- `nc_udp_dispatch_handle_packet` with what the attacher and the connections make of the
packet. -/
def handlePacket (dev : NcDeviceContext) (k : NcDeviceSocket) (ep : ℕ) (d : Datagram)
    (env : OpenEnv) (attacherEnv : AttacherEnv) : Option NcDeviceContext :=
  let udp := dev.socket k
  let cliConn := if udp.cliConn then some dev.clientConnect else none
  let handled := ncUdpDispatchHandlePacket ⟨udp.stun, udp.attacher, cliConn⟩ k.ctorIdx ep d env
  if handled.defined then
    match handled.val.1 with
    | .attacher =>
      (attacherStep dev.attacher (.packet attacherEnv)).map fun ctx => { dev with attacher := ctx }
    | .cliConn ctx => some { dev with clientConnect := ctx }
    | .stun | .none => some dev
  else none

inductive CoreEvent
  | start (enableMdns : Bool)
  | bound (ec : NpErrorCode)
  | packet (k : NcDeviceSocket) (ep : ℕ) (d : Datagram) (env : OpenEnv) (attacherEnv : AttacherEnv)
  | connection (i : ℕ) (e : ClientConnectionEvent) (env : AttacherEnv)
  | attacher (e : AttacherEvent)
  | close (envs : ℕ → SrvEnv) (env : AttacherEnv)
  | stop (env : AttacherEnv)

/-- Events of the attacher that come from the device. -/
def isOfDevice : AttacherEvent → Bool
  | .start | .asyncClose _ | .stop _ | .packet _ => true
  | _ => false

/-- The device is started once. -/
def coreStep (dev : NcDeviceContext) : CoreEvent → Option NcDeviceContext
  | .start enableMdns => if dev.state = .setup then some (ncDeviceStart dev enableMdns) else none
  | .bound ec =>
    dev.binding.map fun
      | .udp => ncDeviceUdpBoundCb { dev with binding := none } ec
      | .localUdp => ncDeviceLocalUdpBoundCb { dev with binding := none } ec
      | .secondaryUdp => ncDeviceSecondaryUdpBoundCb { dev with binding := none } ec
  | .packet k ep d env attacherEnv =>
    if (dev.socket k).receiving then handlePacket dev k ep d env attacherEnv else none
  | .connection i e env =>
    (dispatchStep dev.clientConnect (.connection i e)).map fun ctx =>
      let dev' := { dev with clientConnect := ctx }
      if ctx.closeCbCalls = dev.clientConnect.closeCbCalls then dev'
      else ncDeviceClientConnectionsClosedCb dev' env
  | .attacher e =>
    if isOfDevice e then none
    else
      (attacherStep dev.attacher e).map fun ctx =>
        let dev' := { dev with attacher := ctx }
        if callsClosedCb dev.attacher e then ncDeviceAttachClosedCb dev' else dev'
  | .close envs env => some (ncDeviceClose dev envs env).2
  | .stop env => some (ncDeviceStop dev env)

def ncDevice (maxConnections : ℕ) : Machine NcDeviceContext CoreEvent :=
  ⟨ncDeviceInit maxConnections, coreStep⟩

end NabtoDevice.Core
