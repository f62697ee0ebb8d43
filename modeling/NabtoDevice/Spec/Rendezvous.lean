import NabtoDevice.Spec.ClientConnection
import NabtoDevice.Spec.DnsMultiResolver
import NabtoDevice.Lib.Machine

/-! Rendezvous packets (`src/core/nc_rendezvous.c`) and the CoAP resource which asks for
them (`src/core/nc_rendezvous_coap.c`), with the functions of the device that give the module
its dispatcher and take it away. The UDP module reads the packet from `priBuf` no
later than at the completion of the send; the endpoint it has to copy if it defers the
send (`np_udp.h`). `requested`, `accepted`, `dropped` and `completed` record what became
of the packets. -/

namespace NabtoDevice

def ncRendezvousSendQueueLength : ℕ := 10

def ctRendezvousClientResponse : UInt8 := 0x02
def ctRendezvousDeviceRequest : UInt8 := 0x03

structure NcRendezvousSendPacket where
  type : UInt8
  connectionId : Vector UInt8 14
  ep : NpUdpEndpoint
  deriving DecidableEq, Repr

structure RendezvousDatagram where
  ep : NpUdpEndpoint
  data : List UInt8
  deriving DecidableEq, Repr

/-- A packet that was not put into the queue, with the state of the module then. -/
structure RendezvousDrop where
  packet : NcRendezvousSendPacket
  packetIndex : ℕ
  udpDispatch : Option ℕ
  deriving DecidableEq, Repr

structure RendezvousCompletion where
  datagram : RendezvousDatagram
  ec : NpErrorCode
  deriving DecidableEq, Repr

/-- An element of the zeroed `packetList`. -/
def ncRendezvousUnusedPacket : NcRendezvousSendPacket :=
  ⟨0, Vector.replicate 14 0, ⟨.v4 [0, 0, 0, 0], 0⟩⟩

structure NcRendezvousContext where
  udpDispatch : Option ℕ := none
  priBuf : List UInt8 := []
  packetList : List NcRendezvousSendPacket :=
    List.replicate ncRendezvousSendQueueLength ncRendezvousUnusedPacket
  packetIndex : ℕ := 0
  sendingDevReqs : Bool := false
  /-- The endpoints of the sends that have not ended. -/
  outstanding : List NpUdpEndpoint := []
  completed : List RendezvousCompletion := []
  requested : List NcRendezvousSendPacket := []
  accepted : List NcRendezvousSendPacket := []
  dropped : List RendezvousDrop := []
  deriving DecidableEq, Repr

def ncRendezvousSetUdpDispatch (ctx : NcRendezvousContext) (udpDispatch : ℕ) :
    NcRendezvousContext :=
  { ctx with udpDispatch := some udpDispatch }

def ncRendezvousRemoveUdpDispatch (ctx : NcRendezvousContext) : NcRendezvousContext :=
  { ctx with udpDispatch := none }

/-- The bytes written to `priBuf` for a packet. -/
def NcRendezvousSendPacket.wire (packet : NcRendezvousSendPacket) : List UInt8 :=
  [nabtoProtocolPrefixRendezvous] ++ packet.connectionId.toList ++ [0] ++ [packet.type]

def ncRendezvousSendDeviceRequest (ctx : NcRendezvousContext) : NcRendezvousContext :=
  if ctx.sendingDevReqs || ctx.udpDispatch.isNone then ctx
  else if ctx.packetIndex ≤ 0 then ctx
  else
    let packetIndex := ctx.packetIndex - 1
    let packet := ctx.packetList.getD packetIndex ncRendezvousUnusedPacket
    { ctx with
      packetIndex, priBuf := packet.wire, sendingDevReqs := true
      outstanding := ctx.outstanding ++ [packet.ep] }

def ncRendezvousSendRendezvous (ctx : NcRendezvousContext) (packet : NcRendezvousSendPacket) :
    NcRendezvousContext :=
  let ctx := { ctx with requested := ctx.requested ++ [packet] }
  if ncRendezvousSendQueueLength ≤ ctx.packetIndex || ctx.udpDispatch.isNone then
    { ctx with dropped := ctx.dropped ++ [⟨packet, ctx.packetIndex, ctx.udpDispatch⟩] }
  else
    ncRendezvousSendDeviceRequest { ctx with
      packetList := ctx.packetList.set ctx.packetIndex packet
      packetIndex := ctx.packetIndex + 1
      accepted := ctx.accepted ++ [packet] }

def ncRendezvousHandleClientRequest (ctx : NcRendezvousContext) (ep : NpUdpEndpoint)
    (connectionId : Vector UInt8 14) : NcRendezvousContext :=
  ncRendezvousSendRendezvous ctx ⟨ctRendezvousClientResponse, connectionId, ep⟩

/-- The send to `ep` ends with `ec`; then `nc_rendezvous_packet_sent` runs. -/
def ncRendezvousPacketSent (ctx : NcRendezvousContext) (ep : NpUdpEndpoint)
    (outstanding : List NpUdpEndpoint) (ec : NpErrorCode) : NcRendezvousContext :=
  ncRendezvousSendDeviceRequest { ctx with
    sendingDevReqs := false, outstanding, completed := ctx.completed ++ [⟨⟨ep, ctx.priBuf⟩, ec⟩] }

/-! ### The CoAP resource -/

/-- An element of the payload's array: a map with the values of `Ip` and `Port`, where the
port is an unsigned integer or something else. -/
inductive RendezvousItem
  | map (ip : CborValue) (port : Option UInt64)
  | other
  deriving DecidableEq, Repr

inductive RendezvousPayload
  | array (items : List RendezvousItem)
  | other
  deriving DecidableEq, Repr

/-- The endpoint of a map; the port is cut to 16 bits. -/
def RendezvousItem.ep? : RendezvousItem → Option NpUdpEndpoint
  | .map (.byteString ip) (some port) =>
    if ip.length = 4 then some ⟨.v4 ip, port.toUInt16⟩
    else if ip.length = 16 then some ⟨.v6 ip, port.toUInt16⟩
    else none
  | _ => none

def handleRendezvousItems (ctx : NcRendezvousContext) (connectionId : Vector UInt8 14) :
    List RendezvousItem → Bool × NcRendezvousContext
  | [] => (true, ctx)
  | .other :: _ => (false, ctx)
  | .map ip port :: items =>
    let ctx := match (RendezvousItem.map ip port).ep? with
      | some ep => ncRendezvousSendRendezvous ctx ⟨ctRendezvousDeviceRequest, connectionId, ep⟩
      | none => ctx
    handleRendezvousItems ctx connectionId items

/-- `handle_rendezvous_payload`; the result says whether the payload was well formed. -/
def handleRendezvousPayload (ctx : NcRendezvousContext) (connectionId : Vector UInt8 14) :
    RendezvousPayload → Bool × NcRendezvousContext
  | .array items => handleRendezvousItems ctx connectionId items
  | .other => (false, ctx)

/-! ### The device -/

/-- The module with what `src/core/nc_device.c` does to its dispatcher. -/
structure RendezvousDevice where
  rendezvous : NcRendezvousContext := {}
  started : Bool := false
  stopped : Bool := false
  /-- `nc_device_udp_bound_cb` has run. -/
  bound : Bool := false
  deriving DecidableEq, Repr

namespace RendezvousDevice

/-- `nc_device_udp_bound_cb`. -/
def udpBoundCb (dev : RendezvousDevice) (ec : NpErrorCode) (udp : ℕ) : RendezvousDevice :=
  let dev := { dev with bound := true }
  if dev.stopped then dev
  else if ec ≠ .ok then { dev with stopped := true }
  else { dev with rendezvous := ncRendezvousSetUdpDispatch dev.rendezvous udp }

/-- `nc_device_stop`. -/
def stop (dev : RendezvousDevice) : RendezvousDevice :=
  { dev with stopped := true, rendezvous := ncRendezvousRemoveUdpDispatch dev.rendezvous }

end RendezvousDevice

inductive RendezvousEvent
  | start
  | udpBound (ec : NpErrorCode) (udp : ℕ)
  | close
  | stop
  | clientRequest (ep : NpUdpEndpoint) (connectionId : Vector UInt8 14)
  | coapRequest (connectionId : Vector UInt8 14) (payload : RendezvousPayload)
  | packetSent (ec : NpErrorCode)
  deriving DecidableEq, Repr

/-- The device is started once, and the bind of its main socket completes once. -/
def rendezvousStep (dev : RendezvousDevice) : RendezvousEvent → Option RendezvousDevice
  | .start => if dev.started then none else some { dev with started := true, stopped := false }
  | .udpBound ec udp =>
    if dev.started ∧ dev.bound = false then some (dev.udpBoundCb ec udp) else none
  | .close => some { dev with stopped := dev.stopped || dev.started }
  | .stop => some dev.stop
  | .clientRequest ep connectionId =>
    some { dev with rendezvous := ncRendezvousHandleClientRequest dev.rendezvous ep connectionId }
  | .coapRequest connectionId payload =>
    some { dev with rendezvous := (handleRendezvousPayload dev.rendezvous connectionId payload).2 }
  | .packetSent ec =>
    match dev.rendezvous.outstanding with
    | ep :: outstanding =>
      some { dev with rendezvous := ncRendezvousPacketSent dev.rendezvous ep outstanding ec }
    | [] => none

def rendezvous : Machine RendezvousDevice RendezvousEvent := ⟨{}, rendezvousStep⟩

end NabtoDevice
