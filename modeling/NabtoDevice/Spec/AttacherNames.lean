import NabtoDevice.Lib.CString
import NabtoDevice.Spec.Attacher
import NabtoDevice.Spec.DnsMultiResolver

/-! The host name and the port the attacher of `src/core/nc_attacher.c` connects to:
the array `dns`, which `nc_attacher_start`, `reattach` and `handle_redirect` of
`nc_attacher_attach_start.c` write and `dns_start_resolve` reads as a C string, and
`currentPort`. The rest of the attacher is the machine of `Spec.Attacher`. -/

namespace NabtoDevice

open CString (Buffer)

/-- What `handle_redirect` finds for the keys "Host", "Port" and "Fingerprint". `port` is
`none` unless the value is an unsigned integer. Text strings are taken to be of definite
length, the only ones whose length `cbor_value_get_string_length` reports. -/
structure RedirectPayload where
  host : CborValue
  port : Option UInt64
  fingerprint : CborValue
  deriving DecidableEq, Repr

/-- The text string is copied if it fits `buflen` bytes, and terminated if there is room. -/
def cborValueCopyTextString (s : List UInt8) (dns : Buffer 256) (buflen : ℕ) : Buffer 256 :=
  if buflen < s.length then dns
  else if s.length < buflen then dns.write (s ++ [0])
  else dns.write s

structure NamedAttacher where
  ctx : NcAttachContext
  dns : Buffer 256
  currentPort : UInt16
  hostname : List UInt8
  defaultPort : UInt16
  /-- What follows `dns` in memory. -/
  behind : List UInt8
  /-- The host names of the resolutions started so far. -/
  resolutions : List (List UInt8)
  /-- The endpoints built so far from addresses that were resolved. -/
  endpoints : List NpUdpEndpoint
  deriving DecidableEq

def handleRedirect (a : NamedAttacher) (root : RedirectPayload) :
    NamedAttacher × NcAttacherStatus :=
  match root.host, root.port, root.fingerprint with
  | .textString host, some p, .byteString _ =>
    if host.length < 1 ∨ host.length > 256 then (a, .error)
    else
      ({ a with
        dns := cborValueCopyTextString host a.dns host.length
        currentPort := p.toUInt16 }, .redirect)
  | _, _, _ => (a, .error)

/-- The response of the `i`-th request reaches the CBOR parser of the attach start handler. -/
def parsesAttachStart (ctx : NcAttachContext) (i code : ℕ) : Bool :=
  match ctx.requests[i]? with
  | some request =>
    decide (request.kind = .attachStart) && !request.removed && ctx.startCallback &&
      ncCoapIsStatusOk code
  | none => false

/-- `memcpy` of the configured host name with its terminator. -/
def useHostname (a : NamedAttacher) : NamedAttacher :=
  { a with dns := a.dns.write (a.hostname ++ [0]), currentPort := a.defaultPort }

def buildEndpoints (a : NamedAttacher) (ips : List NpIpAddress) : NamedAttacher :=
  { a with endpoints := a.endpoints ++ ips.map fun ip => ⟨ip, a.currentPort⟩ }

/-- How many times `dns_start_resolve` ran in the step from `ctx` to `ctx'`. -/
def resolvesStarted (ctx ctx' : NcAttachContext) : AttacherEvent → ℕ
  | .dnsResolved _ _ => ctx'.dnsPending + 1 - ctx.dnsPending
  | _ => ctx'.dnsPending - ctx.dnsPending

def attacherAdvance (a : NamedAttacher) (e : AttacherEvent) : Option NamedAttacher :=
  (attacherStep a.ctx e).map fun ctx' =>
    { a with
      ctx := ctx'
      resolutions :=
        a.resolutions ++ List.replicate (resolvesStarted a.ctx ctx' e) (a.dns.read a.behind) }

inductive NamedAttacherEvent
  | start (hostname : List UInt8) (serverPort : UInt16)
  | redirect (i code : ℕ) (root : RedirectPayload) (env : AttacherEnv)
  | dnsResolved (ok : Bool) (ips : List NpIpAddress) (env : AttacherEnv)
  | reattach
  | other (e : AttacherEvent)
  deriving DecidableEq, Repr

/-- The events of the attacher that do not concern the host name. -/
def keepsName : AttacherEvent → Bool
  | .start | .dnsResolved _ _ | .reattach | .coapDone _ (some ⟨_, .redirect⟩) _ => false
  | _ => true

def redirectResponse (code : ℕ) (status : NcAttacherStatus) : CoapClientResponse :=
  ⟨code, if status = .redirect then .redirect else .invalid⟩

def namedAttacherStep (a : NamedAttacher) : NamedAttacherEvent → Option NamedAttacher
  | .start hostname serverPort =>
    if a.ctx.moduleState ≠ .setup then attacherAdvance a .start
    else attacherAdvance (useHostname { a with hostname, defaultPort := serverPort }) .start
  | .redirect i code root env =>
    let r := handleRedirect a root
    attacherAdvance (if parsesAttachStart a.ctx i code then r.1 else a)
      (.coapDone i (some (redirectResponse code r.2)) env)
  | .dnsResolved ok ips env =>
    if a.ctx.moduleState = .closed ∨ ok = false then attacherAdvance a (.dnsResolved ok env)
    else attacherAdvance (buildEndpoints a ips) (.dnsResolved ok env)
  | .reattach =>
    if a.ctx.moduleState = .closed then attacherAdvance a .reattach
    else attacherAdvance (useHostname a) .reattach
  | .other e => if keepsName e then attacherAdvance a e else none

def namedAttacherFrom (a : NamedAttacher) : Machine NamedAttacher NamedAttacherEvent :=
  ⟨a, namedAttacherStep⟩

end NabtoDevice
