import NabtoDevice.Spec.UnixDns
import Mathlib.Data.List.Basic
import Mathlib.Tactic.Common

/-! How many addresses the unix resolver writes. The bound of the loop is tested with the
counter that is only set after the loop, so it holds for all addresses or for none. -/

namespace NabtoDevice

def addresses (infos : List AddrInfo) : List NpIpAddress := infos.filterMap AddrInfo.ip?

/-- The first addresses that there is room for are written, in their order, and counted. -/
structure ResolveOutcome.Fits (out : ResolveOutcome) (ipsSize : ℕ) (ips : List NpIpAddress) :
    Prop where
  within : ∀ w ∈ out.writes, w.2 < ipsSize
  ipsResolved : out.ipsResolved = min ipsSize ips.length
  first : out.writes = (ips.take ipsSize).zipIdx

theorem resolveOneRound_eq {ipsSize : ℕ} (h : 0 < ipsSize) (resolved : ℕ)
    (writes : List (NpIpAddress × ℕ)) (info : AddrInfo) :
    resolveOneRound ipsSize ⟨0, resolved, writes⟩ info =
      ⟨0, resolved + info.ip?.toList.length, writes ++ info.ip?.toList.zipIdx resolved⟩ := by
  cases info <;> simp [resolveOneRound, h, AddrInfo.ip?]

theorem foldl_resolveOneRound {ipsSize : ℕ} (h : 0 < ipsSize) (infos : List AddrInfo) (resolved : ℕ)
    (writes : List (NpIpAddress × ℕ)) :
    infos.foldl (resolveOneRound ipsSize) ⟨0, resolved, writes⟩ =
      ⟨0, resolved + (addresses infos).length, writes ++ (addresses infos).zipIdx resolved⟩ := by
  induction infos generalizing resolved writes with
  | nil => simp [addresses]
  | cons info infos ih =>
    have hcons : addresses (info :: infos) = info.ip?.toList ++ addresses infos := by
      cases hip : info.ip? <;> simp [addresses, hip]
    rw [List.foldl_cons, resolveOneRound_eq h, ih, hcons, List.length_append, List.zipIdx_append,
      Nat.add_assoc, List.append_assoc]

theorem foldl_resolveOneRound_zero (infos : List AddrInfo) (s : ResolveOneLoop) :
    infos.foldl (resolveOneRound 0) s = s := by
  induction infos with
  | nil => rfl
  | cons info infos ih => simpa [resolveOneRound] using ih

theorem resolveOneEc_eq {ipsSize : ℕ} (h : 0 < ipsSize) (infos : List AddrInfo) :
    resolveOneEc ipsSize (some infos) =
      ⟨.ok, (addresses infos).length, (addresses infos).zipIdx⟩ := by
  simp [resolveOneEc, foldl_resolveOneRound h]

theorem fits_iff (ipsSize : ℕ) (infos : List AddrInfo) :
    (resolveOneEc ipsSize (some infos)).Fits ipsSize (addresses infos) ↔
      (addresses infos).length ≤ ipsSize ∨ ipsSize = 0 := by
  rcases Nat.eq_zero_or_pos ipsSize with rfl | hpos
  · refine ⟨fun _ => Or.inr rfl, fun _ => ?_⟩
    rw [resolveOneEc, foldl_resolveOneRound_zero]
    exact ⟨(fun w hw => by cases hw), by simp, by simp⟩
  · rw [resolveOneEc_eq hpos]
    constructor
    · intro h
      have hcount := h.ipsResolved
      dsimp only at hcount
      omega
    · intro h
      have hle : (addresses infos).length ≤ ipsSize := by omega
      refine ⟨fun w hw => ?_, by simp [hle], by rw [List.take_of_length_le hle]⟩
      have hlt := (List.mem_zipIdx hw).2.1
      omega

/-! ### The reader -/

def ReadsBelow (v4IpsSize v6IpsSize : ℕ) (reads : List (DnsFamily × ℕ)) : Prop :=
  ∀ r ∈ reads, r.2 < match r.1 with
    | .v4 => v4IpsSize
    | .v6 => v6IpsSize

theorem readsBelow_round {ipsSize v4IpsSize v6IpsSize : ℕ} {reads : List (DnsFamily × ℕ)}
    (h : ReadsBelow v4IpsSize v6IpsSize reads) (i : ℕ) :
    ReadsBelow v4IpsSize v6IpsSize (readRound ipsSize v4IpsSize v6IpsSize reads i) := by
  unfold ReadsBelow at h ⊢
  unfold readRound
  dsimp only
  split_ifs <;> simp_all [or_imp]

theorem readsBelow_dnsResolvedReads (ipsSize : ℕ) (v4 v6 : ResolveOutcome) :
    ReadsBelow v4.ipsResolved v6.ipsResolved (dnsResolvedReads ipsSize v4 v6) := by
  unfold dnsResolvedReads
  split_ifs
  · exact fun r hr => by cases hr
  · refine List.foldlRecOn _ _ (fun r hr => by cases hr) fun reads h i _ => readsBelow_round h i

def familyIps (v4Ips v6Ips : List NpIpAddress) : DnsFamily → List NpIpAddress
  | .v4 => v4Ips
  | .v6 => v6Ips

structure Mixes (v4Ips v6Ips ips : List NpIpAddress) (reads : List (DnsFamily × ℕ)) : Prop where
  mixed : ips = reads.filterMap fun r => (familyIps v4Ips v6Ips r.1)[r.2]?
  count : ips.length = reads.length

theorem Mixes.add {v4Ips v6Ips ips : List NpIpAddress} {reads : List (DnsFamily × ℕ)}
    (h : Mixes v4Ips v6Ips ips reads) (ipsSize i : ℕ) (family : DnsFamily) :
    Mixes v4Ips v6Ips
      (if ips.length < ipsSize then ips ++ (familyIps v4Ips v6Ips family)[i]?.toList else ips)
      (if reads.length < ipsSize then
        if i < (familyIps v4Ips v6Ips family).length then reads ++ [(family, i)] else reads
      else reads) := by
  rw [h.count]
  by_cases hroom : reads.length < ipsSize
  · rw [if_pos hroom, if_pos hroom]
    by_cases hi : i < (familyIps v4Ips v6Ips family).length
    · exact ⟨by simp [h.mixed, hi], by simp [h.count, hi]⟩
    · rw [if_neg hi]
      have hnone : (familyIps v4Ips v6Ips family)[i]? = none := by simpa using hi
      rw [hnone, Option.toList_none, List.append_nil]
      exact h
  · rw [if_neg hroom, if_neg hroom]
    exact h

/-- What `dns_resolved_ec` mixes is what it reads from the arrays. -/
theorem dnsResolvedEc_mixes (ctx : NcDnsMultiResolver) (h : ctx.v4.ec = .ok ∨ ctx.v6.ec = .ok) :
    Mixes ctx.v4.ips ctx.v6.ips (dnsResolvedEc ctx).2.ips
      (dnsResolvedReads ctx.ipsSize ⟨ctx.v4.ec, ctx.v4.ips.length, []⟩
        ⟨ctx.v6.ec, ctx.v6.ips.length, []⟩) := by
  have hok : ¬ (ctx.v4.ec ≠ .ok ∧ ctx.v6.ec ≠ .ok) := by tauto
  unfold dnsResolvedEc dnsResolvedReads
  rw [if_neg hok, if_neg hok]
  refine List.foldl_rel ⟨rfl, rfl⟩ fun i _ ips reads hmixes => ?_
  exact (hmixes.add ctx.ipsSize i .v4).add ctx.ipsSize i .v6

/-! ### A resolution -/

def multiQuery (infos : Option (List AddrInfo)) : ResolveOutcome :=
  resolveOneEc ncDnsMultiResolverMaxIps infos

def QueryFits (infos : Option (List AddrInfo)) : Prop :=
  (multiQuery infos).Fits ncDnsMultiResolverMaxIps (addresses (infos.getD []))

theorem QueryFits.ipsResolved_le {infos : Option (List AddrInfo)} (h : QueryFits infos) :
    (multiQuery infos).ipsResolved ≤ ncDnsMultiResolverMaxIps := by
  rw [h.ipsResolved]
  exact Nat.min_le_left _ _

/-- The unix resolver writes the first addresses that there is room for exactly if there is
room for all of them or for none; and if that is so for both queries of the multi resolver,
it reads only elements of its arrays. -/
theorem resolveOneEc_fits_iff (ipsSize : ℕ) (infos : List AddrInfo) (v4 v6 : Option (List AddrInfo))
    (userSize : ℕ) :
    ((resolveOneEc ipsSize (some infos)).Fits ipsSize (addresses infos) ↔
      (addresses infos).length ≤ ipsSize ∨ ipsSize = 0) ∧
    (QueryFits v4 → QueryFits v6 →
      ∀ r ∈ dnsResolvedReads userSize (multiQuery v4) (multiQuery v6), r.2 <
        ncDnsMultiResolverMaxIps) := by
  refine ⟨fits_iff ipsSize infos, fun hv4 hv6 r hr => ?_⟩
  have hbelow := readsBelow_dnsResolvedReads userSize (multiQuery v4) (multiQuery v6) r hr
  have hle4 := hv4.ipsResolved_le
  have hle6 := hv6.ipsResolved_le
  obtain ⟨family, i⟩ := r
  cases family with
  | v4 => exact Nat.lt_of_lt_of_le hbelow hle4
  | v6 => exact Nat.lt_of_lt_of_le hbelow hle6

/-- A host with three addresses, of which two are found by the query for IPv4. -/
theorem resolveOneEc_fits_three :
    (resolveOneEc 4 (some [.inet [10, 0, 0, 1], .inet6 [0xfe, 0x80], .inet [10, 0, 0, 2]])).Fits 4
      [.v4 [10, 0, 0, 1], .v6 [0xfe, 0x80], .v4 [10, 0, 0, 2]] ∧
    ∀ r ∈ dnsResolvedReads 10 (multiQuery (some [.inet [10, 0, 0, 1], .inet [10, 0, 0, 2]]))
      (multiQuery none),
      r.2 < ncDnsMultiResolverMaxIps := by
  have hnone : QueryFits none := ⟨(fun w hw => by cases hw), rfl, rfl⟩
  have hthree := resolveOneEc_fits_iff 4
    [.inet [10, 0, 0, 1], .inet6 [0xfe, 0x80], .inet [10, 0, 0, 2]] none none 10
  have htwo := resolveOneEc_fits_iff 4 [.inet [10, 0, 0, 1], .inet [10, 0, 0, 2]]
    (some [.inet [10, 0, 0, 1], .inet [10, 0, 0, 2]]) none 10
  exact ⟨hthree.1.mpr (by decide), htwo.2 (htwo.1.mpr (by decide)) hnone⟩

/-- A host with five addresses: the fifth is written behind the array of the multi resolver,
which reads it there for a user with room for ten, as the STUN client has. -/
theorem fifth_address_overflows :
    let infos : List AddrInfo := List.replicate 5 (.inet [10, 0, 0, 1])
    (.v4 [10, 0, 0, 1], 4) ∈ (multiQuery (some infos)).writes ∧
      (multiQuery (some infos)).ipsResolved = 5 ∧
      ¬ QueryFits (some infos) ∧
      (.v4, 4) ∈ dnsResolvedReads 10 (multiQuery (some infos)) (multiQuery none) := by
  refine ⟨by decide, by decide, fun h => ?_, by decide⟩
  exact absurd h.ipsResolved_le (by decide)

end NabtoDevice
