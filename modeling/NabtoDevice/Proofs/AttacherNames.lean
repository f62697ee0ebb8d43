import NabtoDevice.Spec.AttacherNames

/-! Where a redirect leads. The host name of an accepted redirect is copied into the
array `dns` without a terminator, so what the attacher resolves next also depends on what
the array held before. -/

namespace NabtoDevice

open CString (read_write_iff)

/-- The event writes `dns` and `currentPort`: the attacher is started, starts over with the
configured host, or accepts a redirect. -/
def renames (a : NamedAttacher) : NamedAttacherEvent → Bool
  | .start _ _ => decide (a.ctx.moduleState = .setup)
  | .redirect i code root _ =>
    parsesAttachStart a.ctx i code && decide ((handleRedirect a root).2 = .redirect)
  | .reattach => !decide (a.ctx.moduleState = .closed)
  | .dnsResolved _ _ _ | .other _ => false

/-- What is resolved and built between `a` and `b` is for the name and the port of `a`. -/
structure KeepsTarget (a b : NamedAttacher) : Prop where
  dns : b.dns = a.dns
  port : b.currentPort = a.currentPort
  behind : b.behind = a.behind
  resolved : ∃ k, b.resolutions = a.resolutions ++ List.replicate k (a.dns.read a.behind)
  built : ∃ ips : List NpIpAddress,
    b.endpoints = a.endpoints ++ ips.map fun ip => ⟨ip, a.currentPort⟩

theorem KeepsTarget.refl (a : NamedAttacher) : KeepsTarget a a :=
  ⟨rfl, rfl, rfl, ⟨0, by simp⟩, ⟨[], by simp⟩⟩

variable {a b : NamedAttacher}

theorem KeepsTarget.trans {c : NamedAttacher} (hab : KeepsTarget a b) (hbc : KeepsTarget b c) :
    KeepsTarget a c := by
  obtain ⟨k, hk⟩ := hab.resolved
  obtain ⟨l, hl⟩ := hbc.resolved
  obtain ⟨ips, hips⟩ := hab.built
  obtain ⟨ips', hips'⟩ := hbc.built
  rw [hab.dns, hab.behind] at hl
  rw [hab.port] at hips'
  refine ⟨hbc.dns.trans hab.dns, hbc.port.trans hab.port, hbc.behind.trans hab.behind,
    ⟨k + l, ?_⟩, ⟨ips ++ ips', ?_⟩⟩
  · rw [hl, hk, List.append_assoc, List.replicate_append_replicate]
  · rw [hips', hips, List.append_assoc, List.map_append]

theorem attacherAdvance_keepsTarget {e : AttacherEvent} (hs : attacherAdvance a e = some b) :
    KeepsTarget a b := by
  obtain ⟨ctx', -, rfl⟩ := Option.map_eq_some_iff.mp hs
  exact ⟨rfl, rfl, rfl, ⟨_, rfl⟩, ⟨[], by simp⟩⟩

theorem buildEndpoints_keepsTarget (a : NamedAttacher) (ips : List NpIpAddress) :
    KeepsTarget a (buildEndpoints a ips) :=
  ⟨rfl, rfl, rfl, ⟨0, by simp [buildEndpoints]⟩, ⟨ips, rfl⟩⟩

variable {root : RedirectPayload}

theorem handleRedirect_rejected (h : (handleRedirect a root).2 ≠ .redirect) :
    (handleRedirect a root).1 = a := by
  revert h
  unfold handleRedirect
  split
  · split
    · exact fun _ => rfl
    · exact fun h => absurd rfl h
  · exact fun _ => rfl

theorem handleRedirect_accepted {h : List UInt8} {p : UInt64}
    (hacc : (handleRedirect a root).2 = .redirect)
    (hhost : root.host = .textString h) (hport : root.port = some p) :
    (handleRedirect a root).1 = { a with dns := a.dns.write h, currentPort := p.toUInt16 } := by
  revert hacc
  unfold handleRedirect
  rw [hhost, hport]
  split
  · rename_i host q _ hh hq _
    obtain rfl := CborValue.textString.inj hh
    cases hq
    split
    · exact fun hacc => by cases hacc
    · intro _
      simp [cborValueCopyTextString]
  · exact fun hacc => by cases hacc

theorem redirect_rejected_keepsTarget {i code : ℕ} {env : AttacherEnv}
    (hs : namedAttacherStep a (.redirect i code root env) = some b)
    (h : parsesAttachStart a.ctx i code = true → (handleRedirect a root).2 ≠ .redirect) :
    KeepsTarget a b := by
  have hkeep := attacherAdvance_keepsTarget hs
  by_cases hp : parsesAttachStart a.ctx i code = true
  · rwa [if_pos hp, handleRedirect_rejected (h hp)] at hkeep
  · rwa [if_neg hp] at hkeep

theorem namedAttacherStep_keepsTarget {e : NamedAttacherEvent} (hs : namedAttacherStep a e = some b)
    (hr : renames a e = false) : KeepsTarget a b := by
  cases e with
  | start hostname serverPort =>
    have hm : a.ctx.moduleState ≠ .setup := by simpa [renames] using hr
    rw [namedAttacherStep, if_pos hm] at hs
    exact attacherAdvance_keepsTarget hs
  | redirect i code root env =>
    refine redirect_rejected_keepsTarget hs fun hp => ?_
    simpa [renames, hp] using hr
  | dnsResolved ok ips env =>
    simp only [namedAttacherStep] at hs
    split at hs
    · exact attacherAdvance_keepsTarget hs
    · exact (buildEndpoints_keepsTarget a ips).trans (attacherAdvance_keepsTarget hs)
  | reattach =>
    have hm : a.ctx.moduleState = .closed := by simpa [renames] using hr
    rw [namedAttacherStep, if_pos hm] at hs
    exact attacherAdvance_keepsTarget hs
  | other e =>
    obtain ⟨-, hs⟩ := Option.ite_none_right_eq_some.mp hs
    exact attacherAdvance_keepsTarget hs

theorem run_keepsTarget {evs : List NamedAttacherEvent} (hr : (namedAttacherFrom a).Run evs b)
    (hkeep : ∀ t e, (namedAttacherFrom a).Takes evs t e → renames t e = false) : KeepsTarget a b :=
  hr.invariant_of_takes (KeepsTarget a) (fun t e => renames t e = false) (KeepsTarget.refl a)
    (fun _ _ _ ht hn hs => ht.trans (namedAttacherStep_keepsTarget hs hn)) hkeep

/-- The first resolution after `a` is for the name `h`, and the endpoints built since have
the port `p`. -/
structure Redirected (a b : NamedAttacher) (h : List UInt8) (p : UInt64) : Prop where
  name : b.resolutions[a.resolutions.length]? = some h
  ports : ∀ ep ∈ b.endpoints.drop a.endpoints.length, ep.port.toNat = p.toNat

theorem redirected_iff {h : List UInt8} {p : UInt64} (hp : p.toNat < 65536) (h0 : 0 ∉ h)
    (hlen : h.length ≤ 255)
    (hkeep : KeepsTarget { a with dns := a.dns.write h, currentPort := p.toUInt16 } b)
    (hres : a.resolutions.length < b.resolutions.length) :
    Redirected a b h p ↔ a.dns.bytes[h.length]? = some 0 := by
  obtain ⟨k, hk⟩ := hkeep.resolved
  obtain ⟨ips, hips⟩ := hkeep.built
  have hport : p.toUInt16.toNat = p.toNat := by
    rw [UInt64.toNat_toUInt16]
    exact Nat.mod_eq_of_lt hp
  have hfirst : b.resolutions[a.resolutions.length]? = some ((a.dns.write h).read a.behind) := by
    rw [hk, List.length_append, List.length_replicate] at hres
    rw [hk, List.getElem?_append_right (le_refl _), Nat.sub_self]
    exact List.getElem?_replicate_of_lt (by simpa using hres)
  rw [← read_write_iff a.dns h0 (by omega) a.behind]
  constructor
  · intro hr
    exact Option.some.inj (hfirst.symm.trans hr.name)
  · intro hname
    refine ⟨hfirst.trans (congrArg some hname), fun ep hep => ?_⟩
    rw [hips, List.drop_left] at hep
    obtain ⟨ip, -, rfl⟩ := List.mem_map.mp hep
    exact hport

/-- A redirect that is refused leaves the name and the port. After one that is accepted the next
resolution is for the host it names if and only if a NUL was there already: the copy appends none.
-/
theorem redirect_resolved_iff (a a₁ : NamedAttacher) (i code : ℕ) (root : RedirectPayload)
    (env : AttacherEnv) (hs : namedAttacherStep a (.redirect i code root env) = some a₁) :
    ((handleRedirect a root).2 ≠ .redirect →
      a₁.dns = a.dns ∧ a₁.currentPort = a.currentPort) ∧
    (parsesAttachStart a.ctx i code = true → (handleRedirect a root).2 = .redirect →
      ∀ (h : List UInt8) (p : UInt64), root.host = .textString h → root.port = some p →
      0 ∉ h → h.length ≤ 255 → p.toNat < 65536 →
      ∀ (evs : List NamedAttacherEvent) (b : NamedAttacher), (namedAttacherFrom a₁).Run evs b →
      (∀ t e, (namedAttacherFrom a₁).Takes evs t e → renames t e = false) →
      a.resolutions.length < b.resolutions.length →
      (Redirected a b h p ↔ a.dns.bytes[h.length]? = some 0)) := by
  refine ⟨fun hrej => ?_, fun hp hacc h p hhost hport h0 hlen hlt evs b hr hkeep hres => ?_⟩
  · have hkeep := redirect_rejected_keepsTarget hs fun _ => hrej
    exact ⟨hkeep.dns, hkeep.port⟩
  · have hfirst := attacherAdvance_keepsTarget hs
    rw [if_pos hp, handleRedirect_accepted hacc hhost hport] at hfirst
    exact redirected_iff hlt h0 hlen (hfirst.trans (run_keepsTarget hr hkeep)) hres

def attachStartSent (hostname : List UInt8) : List NamedAttacherEvent :=
  [.start hostname 4433, .dnsResolved true [.v4 [10, 0, 0, 1]] { handshake := .done }]

def namedAttacher : Machine NamedAttacher NamedAttacherEvent :=
  namedAttacherFrom ⟨ncAttacherInit, CString.zero 256, 0, [], 0, [], [], []⟩

def waitingAttacher : NamedAttacher :=
  (namedAttacher.exec (attachStartSent [97, 98])).getD namedAttacher.init

def redirectToXyz : NamedAttacherEvent :=
  .redirect 0 205 ⟨.textString [120, 121, 122], some 4434, .byteString []⟩ {}

def redirectedAttacher : NamedAttacher :=
  (namedAttacherStep waitingAttacher redirectToXyz).getD waitingAttacher

theorem redirect_resolved_longer_host :
    namedAttacher.Run (attachStartSent [97, 98]) waitingAttacher ∧
    Redirected waitingAttacher redirectedAttacher [120, 121, 122] 4434 :=
  ⟨Machine.run_of_exec (by decide +kernel),
    ((redirect_resolved_iff waitingAttacher redirectedAttacher 0 205
      ⟨.textString [120, 121, 122], some 4434, .byteString []⟩ {} (by decide +kernel)).2
      (by decide +kernel) (by decide +kernel) _ _ rfl rfl (by decide) (by decide) (by decide)
      [] redirectedAttacher Machine.Run.nil (fun _ _ ht => absurd ht Machine.not_takes_nil)
      (by decide +kernel)).mpr (by decide +kernel)⟩

/-- The device was configured with "abcd" and is redirected to "xy": it resolves "xycd". -/
theorem redirect_resolves_old_tail :
    ∃ a b, namedAttacher.Run (attachStartSent [97, 98, 99, 100]) a ∧
      namedAttacherStep a (.redirect 0 205 ⟨.textString [120, 121], some 4434, .byteString []⟩ {}) =
        some b ∧
      parsesAttachStart a.ctx 0 205 = true ∧
      (handleRedirect a ⟨.textString [120, 121], some 4434, .byteString []⟩).2 = .redirect ∧
      b.resolutions = [[97, 98, 99, 100], [120, 121, 99, 100]] ∧
      ¬ Redirected a b [120, 121] 4434 :=
  ⟨_, _, Machine.run_of_exec rfl, rfl, by decide +kernel, by decide +kernel,
    by decide +kernel, fun h => absurd h.name (by decide +kernel)⟩

end NabtoDevice
