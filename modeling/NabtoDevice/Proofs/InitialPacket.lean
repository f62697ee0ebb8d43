import NabtoDevice.Spec.AttachEndpoints
import Mathlib.Tactic.Common

/-! The packets of the DTLS client during one attach attempt. The completion event of the
sender carries a packet from one endpoint to the next, and the DTLS client hands over the
next packet when it was called back. -/

namespace NabtoDevice

namespace AttachSender

def targets (endpoints : List NpUdpEndpoint) (s : AttachSender) (packet : ℕ) : List NpUdpEndpoint :=
  match s.handed[packet]? with
  | some (some ep) => [ep]
  | some none => endpoints
  | none => []

def allSends (endpoints : List NpUdpEndpoint) (s : AttachSender) (packets : ℕ) :
    List (ℕ × NpUdpEndpoint) :=
  (List.range packets).flatMap fun packet => (s.targets endpoints packet).map (packet, ·)

structure Sound (endpoints : List NpUdpEndpoint) (s : AttachSender) : Prop where
  /-- The packets are called back in their order, each once, and one at most is on its way. -/
  called : s.called = List.range s.called.length
  called_le : s.called.length ≤ s.handed.length ∧ s.handed.length ≤ s.called.length + 1
  /-- A packet that was called back was sent to each of its endpoints, in their order and once
  each; the one on its way was sent to the first of them. -/
  sent : ∃ current rest, s.sent = s.allSends endpoints s.called.length ++ current ∧
    (s.handed.length = s.called.length → current = []) ∧
    (s.called.length < s.handed.length → current ≠ [] ∧
      current ++ rest = (s.targets endpoints s.called.length).map (s.called.length, ·))
  /-- The callback comes when the last send has ended. -/
  quiet : s.handed.length = s.called.length → s.sending = false ∧ s.posted = none
  /-- The active endpoint is the source of the first packet received. -/
  active : s.active = s.received.head?

/-! ### Where the packet is -/

inductive Phase (endpoints : List NpUdpEndpoint) (s : AttachSender) : Prop
  | idle (hcount : s.handed.length = s.called.length)
    (hsent : s.sent = s.allSends endpoints s.called.length)
      (hsending : s.sending = false) (hposted : s.posted = none)
  | initial (hcount : s.handed.length = s.called.length + 1)
      (hhanded : s.handed[s.called.length]? = some none)
      (hevent : s.senderCompletionEvent = .initialPacketSent)
      (hpacket : s.initialPacket = s.called.length)
      (hpos : 0 < s.endpointsIndex) (hle : s.endpointsIndex ≤ endpoints.length)
      (hsent : s.sent = s.allSends endpoints s.called.length ++
        (endpoints.take s.endpointsIndex).map (s.called.length, ·))
      (hone : s.sending = s.posted.isNone)
  | direct (ep : NpUdpEndpoint) (hcount : s.handed.length = s.called.length + 1)
      (hhanded : s.handed[s.called.length]? = some (some ep))
      (hevent : s.senderCompletionEvent = .dtls s.called.length)
      (hsent : s.sent = s.allSends endpoints s.called.length ++ [(s.called.length, ep)])
      (hone : s.sending = s.posted.isNone)

structure Kept (endpoints : List NpUdpEndpoint) (s : AttachSender) : Prop where
  endpoints_eq : s.endpoints = endpoints
  called : s.called = List.range s.called.length
  active : s.active = s.received.head?
  phase : s.Phase endpoints

variable {endpoints : List NpUdpEndpoint} {s s' : AttachSender}

theorem allSends_succ (endpoints : List NpUdpEndpoint) (s : AttachSender) (packets : ℕ) :
    s.allSends endpoints (packets + 1) =
      s.allSends endpoints packets ++ (s.targets endpoints packets).map (packets, ·) := by
  rw [allSends, List.range_succ, List.flatMap_append, List.flatMap_singleton]
  rfl

theorem allSends_handed (s : AttachSender) (active : Option NpUdpEndpoint) :
    allSends endpoints { s with handed := s.handed ++ [active] } s.handed.length =
      s.allSends endpoints s.handed.length := by
  refine List.flatMap_congr fun packet hpacket => ?_
  rw [targets, targets, List.getElem?_append_left (List.mem_range.mp hpacket)]

theorem Kept.sound (h : s.Kept endpoints) : s.Sound endpoints := by
  obtain ⟨-, hcalled, hactive, hphase⟩ := h
  cases hphase with
  | idle hcount hsent hsending hposted =>
    refine ⟨hcalled, by omega, ⟨[], [], ?_, fun _ => rfl, fun hlt => by omega⟩,
      fun _ => ⟨hsending, hposted⟩, hactive⟩
    rw [List.append_nil, hsent]
  | initial hcount hhanded hevent hpacket hpos hle hsent hone =>
    refine ⟨hcalled, by omega,
      ⟨_, (endpoints.drop s.endpointsIndex).map (s.called.length, ·), hsent,
      fun heq => by omega, fun _ => ⟨?_, ?_⟩⟩, fun heq => by omega, hactive⟩
    · intro hnil
      have hlen := congrArg List.length hnil
      rw [List.length_map, List.length_take, List.length_nil] at hlen
      omega
    · rw [← List.map_append, List.take_append_drop, targets, hhanded]
  | direct ep hcount hhanded hevent hsent hone =>
    refine ⟨hcalled, by omega,
      ⟨_, [], hsent, fun heq => by omega, fun _ => ⟨List.cons_ne_nil _ _, ?_⟩⟩,
      fun heq => by omega, hactive⟩
    rw [targets, hhanded]
    rfl

/-! ### The steps -/

theorem active_eq_some {ep : NpUdpEndpoint} (h : s.active = some ep) :
    s.hasActiveEp = true ∧ s.activeEp = ep := by
  unfold active at h
  split_ifs at h with hactive
  exact ⟨hactive, Option.some.inj h⟩

theorem active_eq_none (h : s.active = none) : s.hasActiveEp = false := by
  unfold active at h
  split_ifs at h with hactive
  exact Bool.of_not_eq_true hactive

theorem phase_callDtls (hcount : s.handed.length = s.called.length + 1)
    (hsent : s.sent = s.allSends endpoints s.called.length ++
      (s.targets endpoints s.called.length).map (s.called.length, ·))
    (hsending : s.sending = false) (hposted : s.posted = none) :
    (s.callDtls s.called.length).Phase endpoints := by
  have hlen : (s.callDtls s.called.length).called.length = s.called.length + 1 := by
    rw [callDtls, List.length_append, List.length_singleton]
  refine .idle (hcount.trans hlen.symm) ?_ hsending hposted
  rw [hlen, allSends_succ]
  exact hsent

theorem called_callDtls (hcalled : s.called = List.range s.called.length) :
    (s.callDtls s.called.length).called =
      List.range (s.callDtls s.called.length).called.length := by
  rw [callDtls, List.length_append, List.length_singleton, List.range_succ, ← hcalled]

/-- The packet goes to the next endpoint, or its callback is invoked after the last one. -/
theorem Kept.sendInitialPacket (hendpoints : s.endpoints = endpoints)
    (hcalled : s.called = List.range s.called.length) (hactive : s.active = s.received.head?)
    (hcount : s.handed.length = s.called.length + 1)
    (hhanded : s.handed[s.called.length]? = some none) (hpacket : s.initialPacket = s.called.length)
    (hsent : s.sent = s.allSends endpoints s.called.length ++
      (endpoints.take s.endpointsIndex).map (s.called.length, ·))
    (hsending : s.sending = false) (hposted : s.posted = none) :
    s.sendInitialPacket.Kept endpoints := by
  unfold AttachSender.sendInitialPacket
  rw [hendpoints, hpacket]
  cases hep : endpoints[s.endpointsIndex]? with
  | none =>
    have htargets : s.targets endpoints s.called.length = endpoints := by rw [targets, hhanded]
    rw [List.take_of_length_le (List.getElem?_eq_none_iff.mp hep)] at hsent
    refine ⟨hendpoints, called_callDtls hcalled, hactive, phase_callDtls hcount ?_ hsending hposted⟩
    rw [htargets]
    exact hsent
  | some ep =>
    have hlt : s.endpointsIndex < endpoints.length := (List.getElem?_eq_some_iff.mp hep).1
    refine ⟨hendpoints, hcalled, hactive,
      .initial hcount hhanded rfl hpacket (Nat.succ_pos _) hlt ?_ ?_⟩
    · rw [List.take_add_one, hep, Option.toList_some, List.map_append, ← List.append_assoc]
      exact congrArg (· ++ [(s.called.length, ep)]) hsent
    · exact (congrArg Option.isNone hposted).symm

/-- A packet is handed over: to all endpoints as long as none has answered, and to the active
one then. -/
theorem Kept.packet (h : s.Kept endpoints) (hidle : s.called.length = s.handed.length) :
    (dtlsPacketSender { s with handed := s.handed ++
      [s.active] } s.handed.length).Kept endpoints := by
  obtain ⟨hendpoints, hcalled, hactive, hphase⟩ := h
  have hlength : (s.handed ++ [s.active]).length = s.called.length + 1 := by
    rw [List.length_append, List.length_singleton, hidle]
  have hlast : (s.handed ++ [s.active])[s.called.length]? = some s.active := by
    rw [hidle, List.getElem?_append_right (Nat.le_refl _), Nat.sub_self]
    rfl
  have hsends : allSends endpoints { s with handed := s.handed ++ [s.active] } s.handed.length =
      s.allSends endpoints s.handed.length := allSends_handed s s.active
  rw [← hidle] at hsends ⊢
  cases hphase with
  | initial | direct => omega
  | idle hcount hsent hsending hposted =>
    unfold dtlsPacketSender
    cases hep : s.active with
    | none =>
      rw [hep] at hlength hlast hsends
      rw [if_pos (by rw [active_eq_none hep]; rfl)]
      refine Kept.sendInitialPacket hendpoints hcalled hactive hlength hlast rfl ?_ hsending hposted
      rw [List.take_zero, List.map_nil, List.append_nil]
      exact hsent.trans hsends.symm
    | some ep =>
      obtain ⟨hhas, heq⟩ := active_eq_some hep
      rw [hep, ← heq] at hlength hlast hsends
      rw [if_neg (by rw [hhas]; decide), ← heq]
      refine ⟨hendpoints, hcalled, hactive, .direct s.activeEp hlength hlast rfl ?_ ?_⟩
      · exact congrArg (· ++ [(s.called.length, s.activeEp)]) (hsent.trans hsends.symm)
      · exact (congrArg Option.isNone hposted).symm

theorem Kept.completion (h : s.Kept endpoints) (hposted : s.posted.isSome) :
    (runCompletion { s with posted := none }).Kept endpoints := by
  obtain ⟨hendpoints, hcalled, hactive, hphase⟩ := h
  have hquiet (hone : s.sending = s.posted.isNone) : s.sending = false := by
    rw [hone, Option.isNone_eq_false_iff]
    exact hposted
  cases hphase with
  | idle _ _ _ hnone =>
    rw [hnone] at hposted
    cases hposted
  | initial hcount hhanded hevent hpacket hpos hle hsent hone =>
    unfold runCompletion
    dsimp only
    rw [hevent]
    exact Kept.sendInitialPacket hendpoints hcalled hactive hcount hhanded hpacket hsent
      (hquiet hone) rfl
  | direct ep hcount hhanded hevent hsent hone =>
    unfold runCompletion
    dsimp only
    rw [hevent]
    refine ⟨hendpoints, called_callDtls hcalled, hactive,
      phase_callDtls hcount ?_ (hquiet hone) rfl⟩
    rw [targets, hhanded]
    exact hsent

theorem Kept.udpDone (h : s.Kept endpoints) (hsending : s.sending = true) (ec : NpErrorCode) :
    Kept endpoints { s with sending := false, posted := some ec } := by
  obtain ⟨hendpoints, hcalled, hactive, hphase⟩ := h
  refine ⟨hendpoints, hcalled, hactive, ?_⟩
  cases hphase with
  | idle _ _ hno _ =>
    rw [hsending] at hno
    cases hno
  | initial hcount hhanded hevent hpacket hpos hle hsent hone =>
    exact .initial hcount hhanded hevent hpacket hpos hle hsent rfl
  | direct ep hcount hhanded hevent hsent hone => exact .direct ep hcount hhanded hevent hsent rfl

theorem Phase.of_active (h : s.Phase endpoints) (hasActiveEp : Bool) (activeEp : NpUdpEndpoint)
    (received : List NpUdpEndpoint) :
    Phase endpoints { s with
      hasActiveEp := hasActiveEp, activeEp := activeEp, received := received } := by
  cases h with
  | idle hcount hsent hsending hposted => exact .idle hcount hsent hsending hposted
  | initial hcount hhanded hevent hpacket hpos hle hsent hone =>
    exact .initial hcount hhanded hevent hpacket hpos hle hsent hone
  | direct ep hcount hhanded hevent hsent hone => exact .direct ep hcount hhanded hevent hsent hone

/-- The first packet received decides and the others change nothing. -/
theorem Kept.received (h : s.Kept endpoints) (ep : NpUdpEndpoint) :
    (handleDtlsPacket { s with received := s.received ++ [ep] } ep).Kept endpoints := by
  obtain ⟨hendpoints, hcalled, hactive, hphase⟩ := h
  have hhead : (s.received ++ [ep]).head? = s.received.head?.or (some ep) := List.head?_append
  rw [← hactive] at hhead
  unfold handleDtlsPacket
  dsimp only
  cases hep : s.active with
  | none =>
    rw [hep, Option.none_or] at hhead
    rw [if_pos (by rw [active_eq_none hep]; rfl)]
    exact ⟨hendpoints, hcalled, hhead.symm, hphase.of_active true ep _⟩
  | some first =>
    rw [hep, Option.some_or] at hhead
    rw [if_neg (by rw [(active_eq_some hep).1]; decide)]
    exact ⟨hendpoints, hcalled, hep.trans hhead.symm, hphase.of_active s.hasActiveEp s.activeEp _⟩

theorem Kept.step (h : s.Kept endpoints) {e : AttachSenderEvent} (hs : s.step e = some s') :
    s'.Kept endpoints := by
  cases e with
  | packet =>
    obtain ⟨hidle, rfl⟩ := Machine.of_guard hs
    exact h.packet hidle
  | udpDone ec =>
    obtain ⟨hsending, rfl⟩ := Machine.of_guard hs
    exact h.udpDone hsending ec
  | completion =>
    cases hposted : s.posted <;>
      simp only [AttachSender.step, hposted, reduceCtorEq, Option.some.injEq] at hs
    subst hs
    exact h.completion (hposted ▸ rfl)
  | received ep =>
    cases hs
    exact h.received ep

/-! ### The packet on its way gets to its callback -/

/-- The steps that are left until the DTLS client is called back. -/
def remaining (s : AttachSender) : ℕ :=
  if s.called.length = s.handed.length then 0
  else 1 + s.sending.toNat + match s.senderCompletionEvent with
    | .initialPacketSent => 2 * (s.endpoints.length - s.endpointsIndex)
    | .dtls _ => 0

theorem remaining_of_ne (h : s.called.length ≠ s.handed.length) :
    s.remaining = 1 + s.sending.toNat + match s.senderCompletionEvent with
      | .initialPacketSent => 2 * (s.endpoints.length - s.endpointsIndex)
      | .dtls _ => 0 := if_neg h

theorem remaining_of_called (h : s.called.length = s.handed.length) : s.remaining = 0 := if_pos h

end AttachSender

/-- The UDP module resolves the completion event and the event queue runs it. -/
def AttachSenderEvent.ofUdp : AttachSenderEvent → Bool
  | .udpDone _ | .completion => true
  | _ => false

namespace AttachSender

variable {endpoints : List NpUdpEndpoint} {s : AttachSender}

/-- The UDP module ends the send on the way, or the event queue goes on with the packet. -/
theorem Kept.progress (h : s.Kept endpoints) (hcalled : s.called.length ≠ s.handed.length) :
    ∃ e s', e.ofUdp = true ∧ s.step e = some s' ∧ s'.handed = s.handed ∧
      s'.remaining < s.remaining := by
  have hremaining := remaining_of_ne hcalled
  cases hsending : s.sending with
  | true =>
    refine ⟨.udpDone .ok, { s with sending := false, posted := some .ok }, rfl,
      if_pos hsending, rfl, (remaining_of_ne (by exact hcalled)).trans_lt ?_⟩
    rw [hremaining, hsending]
    exact Nat.add_lt_add_right (Nat.lt_succ_self 1) _
  | false =>
    have hposted : s.posted.isNone = false := by
      cases h.phase with
      | idle hcount => exact absurd hcount.symm hcalled
      | initial _ _ _ _ _ _ _ hone => rw [← hone, hsending]
      | direct _ _ _ _ _ hone => rw [← hone, hsending]
    obtain ⟨ec, hec⟩ := Option.isSome_iff_exists.mp (Option.isNone_eq_false_iff.mp hposted)
    refine ⟨.completion, runCompletion { s with posted := none }, rfl,
      by rw [AttachSender.step, hec], ?_⟩
    cases h.phase with
    | idle hcount => exact absurd hcount.symm hcalled
    | direct ep hcount hhanded hevent =>
      simp only [runCompletion, hevent]
      refine ⟨rfl, ?_⟩
      rw [remaining_of_called, hremaining]
      · omega
      · rw [callDtls, List.length_append, List.length_singleton, hcount]
    | initial hcount hhanded hevent hpacket hpos hle =>
      simp only [runCompletion, hevent, AttachSender.sendInitialPacket, h.endpoints_eq, hpacket]
      cases hep : endpoints[s.endpointsIndex]? with
      | none =>
        refine ⟨rfl, ?_⟩
        rw [remaining_of_called, hremaining]
        · omega
        · rw [callDtls, List.length_append, List.length_singleton, hcount]
      | some ep =>
        have hlt : s.endpointsIndex < endpoints.length := (List.getElem?_eq_some_iff.mp hep).1
        refine ⟨rfl, (remaining_of_ne (by exact hcalled)).trans_lt ?_⟩
        rw [hremaining, hevent, hsending, h.endpoints_eq]
        simp only [asyncSendTo, Bool.toNat_true, Bool.toNat_false]
        omega

end AttachSender

theorem attachSender_kept {endpoints : List NpUdpEndpoint} {lastEp : NpUdpEndpoint}
    {run : List AttachSenderEvent} {s : AttachSender}
    (hr : (attachSender endpoints lastEp).Run run s) : s.Kept endpoints :=
  hr.invariant (AttachSender.Kept endpoints)
    ⟨rfl, rfl, rfl, .idle rfl rfl rfl rfl⟩ fun _ _ _ h hs => h.step hs

/-- For any endpoints and every order of UDP completions and received packets the sender is
sound, and the UDP completions alone lead to the callback of the packet on its way. -/
theorem attachSender_sound {endpoints : List NpUdpEndpoint} {lastEp : NpUdpEndpoint}
    {run : List AttachSenderEvent} {s : AttachSender}
    (hr : (attachSender endpoints lastEp).Run run s) :
    s.Sound endpoints ∧ ∃ more t, (∀ e ∈ more, e.ofUdp = true) ∧
      (attachSender endpoints lastEp).Run (run ++ more) t ∧ t.handed = s.handed ∧
      t.called.length = t.handed.length := by
  have hkept := attachSender_kept hr
  refine ⟨hkept.sound, ?_⟩
  obtain ⟨more, t, hmore, ht, ⟨-, hhanded⟩, hgoal⟩ := hr.reaches
    (fun t => t.Kept endpoints ∧ t.handed = s.handed) (fun t => t.called.length = t.handed.length)
    (fun e => e.ofUdp = true) AttachSender.remaining
    (by
      rintro t ⟨htkept, hthanded⟩ hgoal
      obtain ⟨e, t', he, hs, hsame, hlt⟩ := htkept.progress hgoal
      exact ⟨e, t', he, hs, ⟨htkept.step hs, hsame.trans hthanded⟩, hlt⟩)
    ⟨hkept, rfl⟩
  exact ⟨more, t, hmore, ht, hhanded, hgoal⟩

/-- Three endpoints, the second of which answers while the first packet is on its way to the
third; the next packet goes to it alone. -/
theorem attachSender_sound_second :
    ∃ run s, (attachSender [⟨.v4 [1], 80⟩, ⟨.v6 [2], 80⟩, ⟨.v4 [3], 80⟩] ⟨.v4 [9], 80⟩).Run run s ∧
      s.sent = [(0, ⟨.v4 [1], 80⟩), (0, ⟨.v6 [2], 80⟩), (0, ⟨.v4 [3], 80⟩), (1, ⟨.v6 [2], 80⟩)] ∧
      s.called = [0, 1] ∧ s.Sound [⟨.v4 [1], 80⟩, ⟨.v6 [2], 80⟩, ⟨.v4 [3], 80⟩] := by
  have hr : (attachSender [⟨.v4 [1], 80⟩, ⟨.v6 [2], 80⟩, ⟨.v4 [3], 80⟩] ⟨.v4 [9], 80⟩).Run
      [.packet, .udpDone .ok, .completion, .udpDone .unknown, .received ⟨.v6 [2], 80⟩, .completion,
        .received ⟨.v4 [1], 80⟩, .udpDone .ok, .completion, .packet, .udpDone .ok, .completion] _ :=
    Machine.run_of_exec rfl
  exact ⟨_, _, hr, by decide +kernel, by decide +kernel, (attachSender_sound hr).1⟩

end NabtoDevice
