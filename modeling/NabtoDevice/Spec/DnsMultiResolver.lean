import NabtoDevice.Spec.Platform

/-! The resolver for host names of `src/core/nc_dns_multi_resolver.c`, which asks for
the IPv4 and the IPv6 addresses of a name at the same time and mixes the answers. Its
queries and the completion events in the event queue are part of its state. -/

namespace NabtoDevice

inductive NpIpAddress
  | v4 (addr : List UInt8)
  | v6 (addr : List UInt8)
  deriving DecidableEq, Repr

structure NpUdpEndpoint where
  ip : NpIpAddress
  port : UInt16
  deriving DecidableEq, Repr

/-- One of the two single family queries. A query that is outstanding is answered with
`np_completion_event_resolve`, which posts the event with the error code. -/
structure DnsQuery where
  outstanding : ℕ := 0
  completionEvent : Option NpErrorCode := none
  ips : List NpIpAddress := []
  ec : NpErrorCode := .ok
  deriving DecidableEq, Repr

def DnsQuery.start (q : DnsQuery) : DnsQuery :=
  { q with outstanding := q.outstanding + 1, ips := [], ec := .operationInProgress }

/-- The resolver of the platform writes the addresses and resolves the completion event. -/
def DnsQuery.answer (q : DnsQuery) (ec : NpErrorCode) (ips : List NpIpAddress) : DnsQuery :=
  { q with outstanding := q.outstanding - 1, completionEvent := some ec, ips }

/-- The event has run with the error code `ec`. -/
def DnsQuery.complete (q : DnsQuery) (ec : NpErrorCode) : DnsQuery :=
  { q with completionEvent := none, ec }

structure NcDnsMultiResolver where
  ipsSize : ℕ := 0
  ips : List NpIpAddress := []
  v4 : DnsQuery := {}
  v6 : DnsQuery := {}
  /-- The completion event of the user of the resolver. -/
  resolvedCompletionEvent : Option NpErrorCode := none
  deriving DecidableEq, Repr

def ncDnsMultiResolverResolve (ctx : NcDnsMultiResolver) (ipsSize : ℕ) : NcDnsMultiResolver :=
  { ctx with ipsSize, v4 := ctx.v4.start, v6 := ctx.v6.start }

/-- One round of the loop of `dns_resolved_ec`; the result so far is a list. -/
def mixRound (ipsSize : ℕ) (v4Ips v6Ips ips : List NpIpAddress) (i : ℕ) : List NpIpAddress :=
  let add (ips : List NpIpAddress) (family : List NpIpAddress) : List NpIpAddress :=
    if ips.length < ipsSize then ips ++ family[i]?.toList else ips
  add (add ips v4Ips) v6Ips

def dnsResolvedEc (ctx : NcDnsMultiResolver) : NpErrorCode × NcDnsMultiResolver :=
  if ctx.v4.ec ≠ .ok ∧ ctx.v6.ec ≠ .ok then (ctx.v4.ec, ctx)
  else
    let rounds := List.range (ctx.v4.ips.length + ctx.v6.ips.length)
    (.ok, { ctx with ips := rounds.foldl (mixRound ctx.ipsSize ctx.v4.ips ctx.v6.ips) [] })

def dnsResolved (ctx : NcDnsMultiResolver) : NcDnsMultiResolver :=
  -- wait for both answers
  if ctx.v4.ec = .operationInProgress ∨ ctx.v6.ec = .operationInProgress then ctx
  else
    let (ec, ctx) := dnsResolvedEc ctx
    { ctx with resolvedCompletionEvent := some ec }

inductive DnsEvent
  | v4Answer (ec : NpErrorCode) (ips : List NpIpAddress)
  | v6Answer (ec : NpErrorCode) (ips : List NpIpAddress)
  | v4Completion
  | v6Completion
  deriving DecidableEq, Repr

/-- What happens to the resolver between `nc_dns_multi_resolver_resolve` and its completion
event. -/
def dnsStep (ctx : NcDnsMultiResolver) : DnsEvent → Option NcDnsMultiResolver
  | .v4Answer ec ips =>
    if 0 < ctx.v4.outstanding then some { ctx with v4 := ctx.v4.answer ec ips } else none
  | .v6Answer ec ips =>
    if 0 < ctx.v6.outstanding then some { ctx with v6 := ctx.v6.answer ec ips } else none
  | .v4Completion =>
    ctx.v4.completionEvent.map fun ec => dnsResolved { ctx with v4 := ctx.v4.complete ec }
  | .v6Completion =>
    ctx.v6.completionEvent.map fun ec => dnsResolved { ctx with v6 := ctx.v6.complete ec }

end NabtoDevice
