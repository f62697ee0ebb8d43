import NabtoDevice.Lib.Machine
import NabtoDevice.Spec.UnixDns

/-! How the attacher of `src/core/nc_attacher.c` comes to the endpoint of the server it
talks to. `DnsResolutions` are the resolutions of a host name one after the other, with what
became of the two queries of the current one. `AttachSender` is what lies between the DTLS
client and UDP during one attach attempt: as long as no endpoint has answered a packet goes
to all of them, one after the other. -/

namespace NabtoDevice

def ncAttacherMaxEndpoints : ℕ := 4
def ncAttacherMaxIps : ℕ := 4

/-! ### The resolutions of the multi resolver -/

/-- How a query for the addresses of one family ends. -/
inductive DnsOutcome
  | failed (ec : NpErrorCode)
  | found (ips : List NpIpAddress)
  deriving DecidableEq, Repr

namespace DnsOutcome

def ec : DnsOutcome → NpErrorCode
  | .failed ec => ec
  | .found _ => .ok

/-- The addresses written; a query that fails writes none. -/
def ips : DnsOutcome → List NpIpAddress
  | .failed _ => []
  | .found ips => ips

/-- An error, or at least one address and no more than fit. -/
def valid : DnsOutcome → Bool
  | .failed ec => ec ≠ .ok
  | .found ips => 1 ≤ ips.length && ips.length ≤ ncDnsMultiResolverMaxIps

end DnsOutcome

inductive DnsProgress
  | idle
  | asked
  | answered (outcome : DnsOutcome)
  /-- The completion event of the query has run. -/
  | completed (outcome : DnsOutcome)
  deriving DecidableEq, Repr

structure DnsResolutions where
  resolver : NcDnsMultiResolver
  v4 : DnsProgress
  v6 : DnsProgress
  /-- What the completion event of the current resolution was resolved with, and the
  addresses it found. -/
  completions : List (NpErrorCode × List NpIpAddress)
  deriving DecidableEq, Repr

inductive DnsResolutionEvent
  | resolve (ipsSize : ℕ)
  | answer (family : DnsFamily) (outcome : DnsOutcome)
  | completion (family : DnsFamily)
  deriving DecidableEq, Repr

namespace DnsResolutions

def init : DnsResolutions := ⟨{}, .idle, .idle, []⟩

/-- A resolution has been started and its completion event has not been resolved. -/
def outstanding (s : DnsResolutions) : Bool := s.v4 ≠ .idle && s.completions.isEmpty

def advance (s : DnsResolutions) (family : DnsFamily) (progress : DnsProgress) : DnsResolutions :=
  match family with
  | .v4 => { s with v4 := progress }
  | .v6 => { s with v6 := progress }

def progress (s : DnsResolutions) : DnsFamily → DnsProgress
  | .v4 => s.v4
  | .v6 => s.v6

def answerEvent (outcome : DnsOutcome) : DnsFamily → DnsEvent
  | .v4 => .v4Answer outcome.ec outcome.ips
  | .v6 => .v6Answer outcome.ec outcome.ips

def completionEvent : DnsFamily → DnsEvent
  | .v4 => .v4Completion
  | .v6 => .v6Completion

/-- A completion that was resolved goes to the user of the resolver. -/
def collect (s : DnsResolutions) : DnsResolutions :=
  match s.resolver.resolvedCompletionEvent with
  | some ec =>
    { s with
      resolver := { s.resolver with resolvedCompletionEvent := none }
      completions := s.completions ++ [(ec, s.resolver.ips)] }
  | none => s

/-- A resolution is not started while another one is outstanding. -/
def step (s : DnsResolutions) : DnsResolutionEvent → Option DnsResolutions
  | .resolve ipsSize =>
    if s.outstanding then none
    else some ⟨ncDnsMultiResolverResolve s.resolver ipsSize, .asked, .asked, []⟩
  | .answer family outcome =>
    if outcome.valid ∧ s.progress family = .asked then
      (dnsStep s.resolver (answerEvent outcome family)).map fun resolver =>
        { s with resolver := resolver }.advance family (.answered outcome)
    else none
  | .completion family =>
    match s.progress family with
    | .answered outcome =>
      (dnsStep s.resolver (completionEvent family)).map fun resolver =>
        ({ s with resolver := resolver }.advance family (.completed outcome)).collect
    | _ => none

end DnsResolutions

def dnsResolutions : Machine DnsResolutions DnsResolutionEvent :=
  ⟨DnsResolutions.init, DnsResolutions.step⟩

/-! ### The endpoints of the attacher -/

/-- `struct nc_attacher_initial_packet_send`, the part that `dns_resolved_callback` writes:
the elements of the array are kept with the index they were written at. -/
structure AttachEndpoints where
  endpoints : List (ℕ × NpUdpEndpoint)
  endpointsSize : ℕ
  endpointsIndex : ℕ
  deriving DecidableEq, Repr

/-- One round of the loop of `dns_resolved_callback`. -/
def dnsResolvedRound (currentPort : UInt16) (p : AttachEndpoints) (ip : NpIpAddress) :
    AttachEndpoints :=
  if p.endpointsIndex < ncAttacherMaxEndpoints then
    { p with
      endpoints := p.endpoints ++ [(p.endpointsSize, ⟨ip, currentPort⟩)]
      endpointsSize := p.endpointsSize + 1 }
  else p

def dnsResolvedEndpoints (currentPort : UInt16) (resolvedIps : List NpIpAddress) :
    AttachEndpoints :=
  resolvedIps.foldl (dnsResolvedRound currentPort) ⟨[], 0, 0⟩

/-! ### The packets of one attach attempt -/

/-- The callback `senderCompletionEvent` was last initialised with. -/
inductive SenderCallback
  | initialPacketSent
  | dtls (packet : ℕ)
  deriving DecidableEq, Repr

structure AttachSender where
  hasActiveEp : Bool
  activeEp : NpUdpEndpoint
  endpoints : List NpUdpEndpoint
  endpointsIndex : ℕ
  /-- The packet `initialPacket.cb` and `initialPacket.buffer` belong to. -/
  initialPacket : ℕ
  senderCompletionEvent : SenderCallback
  /-- A UDP send with the completion event has not ended. -/
  sending : Bool
  /-- The completion event is in the event queue. -/
  posted : Option NpErrorCode
  /-- The packets the DTLS client handed over, with the endpoint that was active then. -/
  handed : List (Option NpUdpEndpoint)
  /-- The UDP sends: which packet and to which endpoint. -/
  sent : List (ℕ × NpUdpEndpoint)
  /-- The packets whose callback was invoked. -/
  called : List ℕ
  received : List NpUdpEndpoint
  deriving DecidableEq, Repr

inductive AttachSenderEvent
  /-- The DTLS client hands a packet to `dtls_packet_sender`. -/
  | packet
  | udpDone (ec : NpErrorCode)
  | completion
  /-- `nc_attacher_handle_dtls_packet`. -/
  | received (ep : NpUdpEndpoint)
  deriving DecidableEq, Repr

namespace AttachSender

/-- The attacher when `dns_resolved_callback` has built the endpoints, whatever the endpoint
of the last attempt was. -/
def start (endpoints : List NpUdpEndpoint) (lastEp : NpUdpEndpoint) : AttachSender where
  hasActiveEp := false
  activeEp := lastEp
  endpoints := endpoints
  endpointsIndex := 0
  initialPacket := 0
  senderCompletionEvent := .initialPacketSent
  sending := false
  posted := none
  handed := []
  sent := []
  called := []
  received := []

/-- The callback of the DTLS client, which from then on may hand over the next packet. -/
def callDtls (s : AttachSender) (packet : ℕ) : AttachSender :=
  { s with called := s.called ++ [packet] }

/-- `np_completion_event_reinit` and `nc_udp_dispatch_async_send_to`. -/
def asyncSendTo (s : AttachSender) (packet : ℕ) (ep : NpUdpEndpoint) (cb : SenderCallback) :
    AttachSender :=
  { s with senderCompletionEvent := cb, sending := true, sent := s.sent ++ [(packet, ep)] }

def sendInitialPacket (s : AttachSender) : AttachSender :=
  match s.endpoints[s.endpointsIndex]? with
  | none => s.callDtls s.initialPacket
  | some ep =>
    { s.asyncSendTo s.initialPacket ep .initialPacketSent with
      endpointsIndex := s.endpointsIndex + 1 }

def startSendInitialPacket (s : AttachSender) (packet : ℕ) : AttachSender :=
  sendInitialPacket { s with initialPacket := packet, endpointsIndex := 0 }

def dtlsPacketSender (s : AttachSender) (packet : ℕ) : AttachSender :=
  if !s.hasActiveEp then s.startSendInitialPacket packet
  else s.asyncSendTo packet s.activeEp (.dtls packet)

def active (s : AttachSender) : Option NpUdpEndpoint :=
  if s.hasActiveEp then some s.activeEp else none

/-- `nc_attacher_handle_dtls_packet`, up to the call of the DTLS client. -/
def handleDtlsPacket (s : AttachSender) (ep : NpUdpEndpoint) : AttachSender :=
  if !s.hasActiveEp then { s with activeEp := ep, hasActiveEp := true } else s

/-- `resolve_event_callback`. -/
def runCompletion (s : AttachSender) : AttachSender :=
  match s.senderCompletionEvent with
  | .initialPacketSent => s.sendInitialPacket
  | .dtls packet => s.callDtls packet

/-- The DTLS client has one packet at a time with its sender. -/
def step (s : AttachSender) : AttachSenderEvent → Option AttachSender
  | .packet =>
    if s.called.length = s.handed.length then
      some (dtlsPacketSender { s with handed := s.handed ++ [s.active] } s.handed.length)
    else none
  | .udpDone ec => if s.sending then some { s with sending := false, posted := some ec } else none
  | .completion =>
    match s.posted with
    | some _ => some (runCompletion { s with posted := none })
    | none => none
  | .received ep => some ({ s with received := s.received ++ [ep] }.handleDtlsPacket ep)

end AttachSender

def attachSender (endpoints : List NpUdpEndpoint) (lastEp : NpUdpEndpoint) :
    Machine AttachSender AttachSenderEvent :=
  ⟨AttachSender.start endpoints lastEp, AttachSender.step⟩

end NabtoDevice
