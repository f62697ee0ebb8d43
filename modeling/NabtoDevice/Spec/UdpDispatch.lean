import NabtoDevice.Spec.ClientConnectionDispatch

/-! The dispatcher of the datagrams of a socket (`src/core/nc_udp_dispatch.c`), which
looks at the first byte of a packet. -/

namespace NabtoDevice

structure UdpDispatch where
  stun : Bool := false
  attacher : Bool := false
  cliConn : Option ClientConnectionDispatch := none

inductive UdpDestination
  | stun
  | attacher
  | cliConn (ctx : ClientConnectionDispatch)
  | none

/-- A test of the first byte that is made only if the module is there. -/
def testFirst (present : Bool) (test : UInt8 → Bool) (d : Datagram) : Traced Bool :=
  if present then do
    let first ← Traced.readPlace d.mem 0
    return test first
  else return false

/-- A packet for no module is logged with its first byte. -/
def undispatched (d : Datagram) : Traced (UdpDestination × Option UInt16) := do
  let _ ← Traced.readPlace d.mem 0
  return (.none, none)

/-- The last test of `nc_udp_dispatch_handle_packet`. -/
def dispatchClient (cliConn : Option ClientConnectionDispatch) (sock ep : ℕ) (d : Datagram)
    (env : OpenEnv) : Traced (UdpDestination × Option UInt16) :=
  match cliConn with
  | none => undispatched d
  | some ctx => do
    let first ← Traced.readPlace d.mem 0
    if first ≥ 240 then do
      let (ctx, len) ← ncClientConnectionDispatchHandlePacket ctx sock ep d env
      return (.cliConn ctx, len)
    else undispatched d

/-- The destination of a packet, and the length of what a client connection passes on to
DTLS. -/
def ncUdpDispatchHandlePacket (udp : UdpDispatch) (sock ep : ℕ) (d : Datagram) (env : OpenEnv) :
    Traced (UdpDestination × Option UInt16) := do
  let isStun ← testFirst udp.stun (fun b => b == 0 || b == 1) d
  if isStun then return (.stun, none)
  else do
    let isDtls ← testFirst udp.attacher (fun b => decide (b ≥ 20) && decide (b ≤ 64)) d
    if isDtls then return (.attacher, none) else dispatchClient udp.cliConn sock ep d env

end NabtoDevice
