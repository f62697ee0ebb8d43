import NabtoDevice.Spec.DnsMultiResolver
import NabtoDevice.Lib.Machine

/-! The mDNS server of `src/modules/mdns/nm_mdns_server.c`, which announces the device and
answers queries on an IPv4 and an IPv6 socket. What the operating system and the mDNS
library answer comes with the event. `actions` records the sends and the receive waits in
the order in which they are started. -/

namespace NabtoDevice

inductive MdnsSocket
  | socketv4
  | socketv6
  deriving DecidableEq, Repr

inductive MdnsAction
  | sendTo (socket : MdnsSocket) (ep : NpUdpEndpoint) (packet : List UInt8)
  | recvWait (socket : MdnsSocket)
  deriving DecidableEq, Repr

/-- A completion event is outstanding as often as it was handed to the UDP module and has
not run. -/
structure NmMdnsServer where
  running : Bool := false
  stopped : Bool := false
  v4Done : Bool := false
  v6Done : Bool := false
  port : UInt16 := 0
  localIps : List NpIpAddress := []
  sendBufferV4 : List UInt8 := []
  sendBufferV6 : List UInt8 := []
  recvBuffer : List UInt8 := []
  v4Opened : ℕ := 0
  v6Opened : ℕ := 0
  v4RecvWait : ℕ := 0
  v6RecvWait : ℕ := 0
  v4Send : ℕ := 0
  v6Send : ℕ := 0
  actions : List MdnsAction := []
  deriving DecidableEq, Repr

def mdnsMaxLocalIps : ℕ := 2

def mdnsBufferSize : ℕ := 1500

/-- What is found out when a packet is to be sent: the local addresses, and the packet that
`nabto_mdns_server_build_packet` writes, if it can. -/
structure MdnsBuild where
  localIps : List NpIpAddress
  packet : Option (List UInt8)
  deriving DecidableEq, Repr

/-- The result of `np_udp_recv_from`, and whether `nabto_mdns_server_handle_packet` asks for
an answer to the packet. -/
structure MdnsReceived where
  ec : NpErrorCode
  packet : List UInt8
  accepted : Bool
  deriving DecidableEq, Repr

def nmMdnsServerStop (mdns : NmMdnsServer) : NmMdnsServer := { mdns with stopped := true }

def publishService (server : NmMdnsServer) (port : UInt16) : NmMdnsServer :=
  if server.running then server
  else
    { server with
      running := true, port, v4Opened := server.v4Opened + 1, v6Opened := server.v6Opened + 1 }

def nmMdnsUpdateLocalIps (mdns : NmMdnsServer) (ips : List NpIpAddress) : NmMdnsServer :=
  { mdns with localIps := ips.take mdnsMaxLocalIps }

/-! ### IPv4 -/

def mdnsEndpointV4 : NpUdpEndpoint := ⟨.v4 [0xe0, 0x00, 0x00, 0xfb], 5353⟩

def nmMdnsRecvPacketV4 (mdns : NmMdnsServer) : NmMdnsServer :=
  { mdns with v4RecvWait := mdns.v4RecvWait + 1, actions := mdns.actions ++ [.recvWait .socketv4] }

def nmMdnsSendPacketV4 (mdns : NmMdnsServer) (build : MdnsBuild) : NmMdnsServer :=
  let mdns := nmMdnsUpdateLocalIps mdns build.localIps
  if 0 < mdns.port then
    match build.packet with
    | some packet =>
      { mdns with
        sendBufferV4 := packet.take mdnsBufferSize
        v4Send := mdns.v4Send + 1
        actions := mdns.actions ++ [.sendTo .socketv4 mdnsEndpointV4 (packet.take mdnsBufferSize)] }
    | none => nmMdnsRecvPacketV4 mdns
  else nmMdnsRecvPacketV4 mdns

def nmMdnsSocketOpenedV4 (mdns : NmMdnsServer) (ec : NpErrorCode) (build : MdnsBuild) :
    NmMdnsServer :=
  if mdns.stopped then { mdns with v4Done := true }
  else if ec = .ok then nmMdnsSendPacketV4 mdns build
  else { mdns with v4Done := true }

/-- The test for `NABTO_EC_AGAIN` is commented out in the source. -/
def nmMdnsPacketRecvWaitCompletedV4 (mdns : NmMdnsServer) (ec : NpErrorCode)
    (received : MdnsReceived) (build : MdnsBuild) : NmMdnsServer :=
  if ec = .ok then
    if received.ec = .ok then
      let mdns := { mdns with recvBuffer := received.packet.take mdnsBufferSize }
      if received.accepted then nmMdnsSendPacketV4 mdns build else nmMdnsRecvPacketV4 mdns
    else { mdns with v4Done := true }
  else { mdns with v4Done := true }

def nmMdnsPacketSentV4 (mdns : NmMdnsServer) (_ec : NpErrorCode) : NmMdnsServer :=
  if mdns.stopped then { mdns with v4Done := true } else nmMdnsRecvPacketV4 mdns

/-! ### IPv6 -/

def mdnsEndpointV6 : NpUdpEndpoint :=
  ⟨.v6 [0xff, 0x02, 0x00, 0x00, 0x00, 0x00, 0x00, 0x00, 0x00, 0x00, 0x00, 0x00, 0x00, 0x00, 0x00,
    0xfb], 5353⟩

def nmMdnsRecvPacketV6 (mdns : NmMdnsServer) : NmMdnsServer :=
  { mdns with v6RecvWait := mdns.v6RecvWait + 1, actions := mdns.actions ++ [.recvWait .socketv6] }

def nmMdnsSendPacketV6 (mdns : NmMdnsServer) (build : MdnsBuild) : NmMdnsServer :=
  let mdns := nmMdnsUpdateLocalIps mdns build.localIps
  if 0 < mdns.port then
    match build.packet with
    | some packet =>
      { mdns with
        sendBufferV6 := packet.take mdnsBufferSize
        v6Send := mdns.v6Send + 1
        actions := mdns.actions ++ [.sendTo .socketv6 mdnsEndpointV6 (packet.take mdnsBufferSize)] }
    | none => nmMdnsRecvPacketV6 mdns
  else nmMdnsRecvPacketV6 mdns

def nmMdnsSocketOpenedV6 (mdns : NmMdnsServer) (ec : NpErrorCode) (build : MdnsBuild) :
    NmMdnsServer :=
  if mdns.stopped then { mdns with v6Done := true }
  else if ec = .ok then nmMdnsSendPacketV6 mdns build
  else { mdns with v6Done := true }

def nmMdnsPacketRecvWaitCompletedV6 (mdns : NmMdnsServer) (ec : NpErrorCode)
    (received : MdnsReceived) (build : MdnsBuild) : NmMdnsServer :=
  if ec = .ok then
    if received.ec = .ok then
      let mdns := { mdns with recvBuffer := received.packet.take mdnsBufferSize }
      if received.accepted then nmMdnsSendPacketV6 mdns build else nmMdnsRecvPacketV6 mdns
    else if received.ec = .again then nmMdnsRecvPacketV6 mdns
    else { mdns with v6Done := true }
  else { mdns with v6Done := true }

def nmMdnsPacketSentV6 (mdns : NmMdnsServer) (_ec : NpErrorCode) : NmMdnsServer :=
  if mdns.stopped then { mdns with v6Done := true } else nmMdnsRecvPacketV6 mdns

/-! ### Runs -/

/-- A call of the server's users, or the completion of an operation on one of the sockets. -/
inductive MdnsEvent
  | publishService (port : UInt16)
  | stop
  | opened (socket : MdnsSocket) (ec : NpErrorCode) (build : MdnsBuild)
  | recvWaitCompleted (socket : MdnsSocket) (ec : NpErrorCode) (received : MdnsReceived)
      (build : MdnsBuild)
  | sent (socket : MdnsSocket) (ec : NpErrorCode)
  deriving DecidableEq, Repr

def mdnsServerStep (mdns : NmMdnsServer) : MdnsEvent → Option NmMdnsServer
  | .publishService port => some (publishService mdns port)
  | .stop => some (nmMdnsServerStop mdns)
  | .opened .socketv4 ec build =>
    if 0 < mdns.v4Opened then
      some (nmMdnsSocketOpenedV4 { mdns with v4Opened := mdns.v4Opened - 1 } ec build)
    else none
  | .opened .socketv6 ec build =>
    if 0 < mdns.v6Opened then
      some (nmMdnsSocketOpenedV6 { mdns with v6Opened := mdns.v6Opened - 1 } ec build)
    else none
  | .recvWaitCompleted .socketv4 ec received build =>
    if 0 < mdns.v4RecvWait then
      some (nmMdnsPacketRecvWaitCompletedV4
        { mdns with v4RecvWait := mdns.v4RecvWait - 1 } ec received build)
    else none
  | .recvWaitCompleted .socketv6 ec received build =>
    if 0 < mdns.v6RecvWait then
      some (nmMdnsPacketRecvWaitCompletedV6
        { mdns with v6RecvWait := mdns.v6RecvWait - 1 } ec received build)
    else none
  | .sent .socketv4 ec =>
    if 0 < mdns.v4Send then some (nmMdnsPacketSentV4 { mdns with v4Send := mdns.v4Send - 1 } ec)
    else none
  | .sent .socketv6 ec =>
    if 0 < mdns.v6Send then some (nmMdnsPacketSentV6 { mdns with v6Send := mdns.v6Send - 1 } ec)
    else none

/-- From the server as `nm_mdns_server_init` leaves it. -/
def mdnsServer : Machine NmMdnsServer MdnsEvent := ⟨{}, mdnsServerStep⟩

end NabtoDevice
