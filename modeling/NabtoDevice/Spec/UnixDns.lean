import NabtoDevice.Spec.DnsMultiResolver

/-! The resolver of unix platforms (`src/modules/dns/unix/nm_unix_dns.c`) and the arrays
through which it answers `src/core/nc_dns_multi_resolver.c`. What a loop writes to an array
or reads from it is a list of elements with their indices. -/

namespace NabtoDevice

/-- An element of the list that `getaddrinfo` returns, by its `ai_family`. -/
inductive AddrInfo
  | inet (sinAddr : List UInt8)
  | inet6 (sin6Addr : List UInt8)
  | other
  deriving DecidableEq, Repr

def AddrInfo.ip? : AddrInfo → Option NpIpAddress
  | .inet addr => some (.v4 addr)
  | .inet6 addr => some (.v6 addr)
  | .other => none

structure ResolveOneLoop where
  /-- What `event->ipsResolved` points to. -/
  ipsResolved : ℕ
  resolved : ℕ
  /-- Assignments to elements of `ips`. -/
  writes : List (NpIpAddress × ℕ)
  deriving DecidableEq, Repr

def resolveOneRound (ipsSize : ℕ) (s : ResolveOneLoop) (p : AddrInfo) : ResolveOneLoop :=
  if s.ipsResolved < ipsSize then
    match p with
    | .inet addr =>
      { s with writes := s.writes ++ [(.v4 addr, s.resolved)], resolved := s.resolved + 1 }
    | .inet6 addr =>
      { s with writes := s.writes ++ [(.v6 addr, s.resolved)], resolved := s.resolved + 1 }
    | .other => s
  else s

structure ResolveOutcome where
  ec : NpErrorCode
  ipsResolved : ℕ
  writes : List (NpIpAddress × ℕ)
  deriving DecidableEq, Repr

/-- `none` is a failure of `getaddrinfo`. -/
def resolveOneEc (ipsSize : ℕ) : Option (List AddrInfo) → ResolveOutcome
  | none => ⟨.notFound, 0, []⟩
  | some infos =>
    let s := infos.foldl (resolveOneRound ipsSize) ⟨0, 0, []⟩
    ⟨.ok, s.resolved, s.writes⟩

def ncDnsMultiResolverMaxIps : ℕ := 4

inductive DnsFamily
  | v4
  | v6
  deriving DecidableEq, Repr

/-- One round of the loop of `dns_resolved_ec`, with what it reads from `v4Ips` and `v6Ips`.
Each element read is written to the next element of `ips`. -/
def readRound (ipsSize v4IpsSize v6IpsSize : ℕ) (reads : List (DnsFamily × ℕ)) (i : ℕ) :
    List (DnsFamily × ℕ) :=
  let add (reads : List (DnsFamily × ℕ)) (family : DnsFamily) (size : ℕ) : List (DnsFamily × ℕ) :=
    if reads.length < ipsSize then if i < size then reads ++ [(family, i)] else reads else reads
  add (add reads .v4 v4IpsSize) .v6 v6IpsSize

/-- What `dns_resolved_ec` reads when both queries have been answered. -/
def dnsResolvedReads (ipsSize : ℕ) (v4 v6 : ResolveOutcome) : List (DnsFamily × ℕ) :=
  if v4.ec ≠ .ok ∧ v6.ec ≠ .ok then []
  else
    (List.range (v4.ipsResolved + v6.ipsResolved)).foldl
      (readRound ipsSize v4.ipsResolved v6.ipsResolved) []

end NabtoDevice
