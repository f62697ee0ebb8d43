import NabtoDevice.Spec.Rendezvous
import Mathlib.Tactic.Common

/-! What becomes of rendezvous packets. The queue is used as a stack, so the packets sent,
being sent and queued are compared with those accepted up to their order. -/

namespace NabtoDevice

def NcRendezvousSendPacket.datagram (packet : NcRendezvousSendPacket) : RendezvousDatagram :=
  ⟨packet.ep, packet.wire⟩

namespace NcRendezvousContext

def queue (ctx : NcRendezvousContext) : List NcRendezvousSendPacket :=
  ctx.packetList.take ctx.packetIndex

def onTheWay (ctx : NcRendezvousContext) : List RendezvousDatagram :=
  ctx.outstanding.map (⟨·, ctx.priBuf⟩)

structure Sound (ctx : NcRendezvousContext) : Prop where
  packetIndex_le : ctx.packetIndex ≤ ncRendezvousSendQueueLength
  one_send : ctx.outstanding.length ≤ 1
  /-- Each packet accepted was sent, is being sent or is queued, and nothing else is sent. -/
  content : (ctx.completed.map (·.datagram) ++ ctx.onTheWay ++ ctx.queue.map (·.datagram)).Perm
    (ctx.accepted.map (·.datagram))
  requested : (ctx.accepted ++ ctx.dropped.map (·.packet)).Perm ctx.requested
  dropped : ∀ d ∈ ctx.dropped, d.packetIndex = ncRendezvousSendQueueLength ∨ d.udpDispatch = none
  none_stranded : ctx.outstanding = [] → ctx.udpDispatch.isSome → ctx.packetIndex = 0

end NcRendezvousContext

/-! ### The queue -/

/-- All that is expected, except that packets may wait although they could be sent. -/
structure NcRendezvousContext.Kept (ctx : NcRendezvousContext) : Prop where
  packetList_length : ctx.packetList.length = ncRendezvousSendQueueLength
  packetIndex_le : ctx.packetIndex ≤ ncRendezvousSendQueueLength
  sending : if ctx.sendingDevReqs then ctx.outstanding.length = 1 else ctx.outstanding = []
  content : (ctx.completed.map (·.datagram) ++ ctx.onTheWay ++ ctx.queue.map (·.datagram)).Perm
    (ctx.accepted.map (·.datagram))
  requested : (ctx.accepted ++ ctx.dropped.map (·.packet)).Perm ctx.requested
  dropped : ∀ d ∈ ctx.dropped, d.packetIndex = ncRendezvousSendQueueLength ∨ d.udpDispatch = none

def NcRendezvousContext.Idle (ctx : NcRendezvousContext) : Prop :=
  ctx.outstanding = [] → ctx.udpDispatch.isSome → ctx.packetIndex = 0

section Queue

variable {ctx : NcRendezvousContext}

theorem NcRendezvousContext.Kept.sound (h : ctx.Kept) (hidle : ctx.Idle) : ctx.Sound := by
  refine ⟨h.packetIndex_le, ?_, h.content, h.requested, h.dropped, hidle⟩
  have hsending := h.sending
  split_ifs at hsending
  · omega
  · rw [hsending]
    exact Nat.zero_le 1

theorem take_pop {l : List NcRendezvousSendPacket} {n : ℕ} (hpos : 0 < n) (hle : n ≤ l.length) :
    l.take n = l.take (n - 1) ++ [l.getD (n - 1) ncRendezvousUnusedPacket] := by
  obtain ⟨m, rfl⟩ : ∃ m, n = m + 1 := ⟨n - 1, by omega⟩
  have hm : m < l.length := by omega
  rw [Nat.add_sub_cancel, List.take_add_one, List.getD_eq_getElem?_getD,
    List.getElem?_eq_getElem hm]
  rfl

theorem take_push (l : List NcRendezvousSendPacket) {n : ℕ} (hlt : n < l.length)
    (packet : NcRendezvousSendPacket) : (l.set n packet).take (n + 1) = l.take n ++ [packet] := by
  rw [List.take_add_one, List.getElem?_set_self hlt, List.take_set_of_le (Nat.le_refl n)]
  rfl

/-- `nc_rendezvous_send_device_request` sends the last packet of the queue if it can. -/
theorem NcRendezvousContext.Kept.sendDeviceRequest (h : ctx.Kept) :
    (ncRendezvousSendDeviceRequest ctx).Kept ∧ (ncRendezvousSendDeviceRequest ctx).Idle := by
  have hsending := h.sending
  unfold ncRendezvousSendDeviceRequest
  split_ifs with hblocked hempty
  · refine ⟨h, fun hnone hdispatch => ?_⟩
    rcases Bool.or_eq_true_iff.mp hblocked with hbusy | hno
    · rw [if_pos hbusy, hnone] at hsending
      cases hsending
    · rw [Option.isNone_iff_eq_none] at hno
      rw [hno] at hdispatch
      cases hdispatch
  · exact ⟨h, fun _ _ => by omega⟩
  · have hfree : ctx.sendingDevReqs = false := by
      cases hbusy : ctx.sendingDevReqs
      · rfl
      · rw [hbusy] at hblocked
        exact absurd rfl hblocked
    rw [hfree, if_neg (by decide)] at hsending
    have hpop := take_pop (l := ctx.packetList) (n := ctx.packetIndex) (by omega)
      (h.packetList_length ▸ h.packetIndex_le)
    have hle := h.packetIndex_le
    refine ⟨⟨h.packetList_length, by dsimp only; omega, by simp [hsending], ?_, h.requested,
      h.dropped⟩, fun hnone => ?_⟩
    · have hcontent := h.content
      simp only [onTheWay, queue, hsending, List.map_nil, List.append_nil] at hcontent ⊢
      rw [hpop, List.map_append] at hcontent
      rw [List.nil_append, List.map_singleton, List.append_assoc]
      exact (List.perm_append_comm.append_left _).trans hcontent
    · simp [hsending] at hnone

/-- A packet is dropped, or queued and sent as soon as possible. -/
theorem NcRendezvousContext.Kept.sendRendezvous (h : ctx.Kept) (hidle : ctx.Idle)
    (packet : NcRendezvousSendPacket) :
    (ncRendezvousSendRendezvous ctx packet).Kept ∧
      (ncRendezvousSendRendezvous ctx packet).Idle := by
  unfold ncRendezvousSendRendezvous
  dsimp only
  split_ifs with hdrop
  · refine ⟨⟨h.packetList_length, h.packetIndex_le, h.sending, h.content, ?_,
      fun d hd => ?_⟩, hidle⟩
    · rw [List.map_append, ← List.append_assoc]
      exact h.requested.append_right [packet]
    · rcases List.mem_append.mp hd with hd | hd
      · exact h.dropped d hd
      · rw [List.mem_singleton.mp hd]
        refine (Bool.or_eq_true_iff.mp hdrop).imp (fun hfull => ?_) Option.isNone_iff_eq_none.mp
        exact Nat.le_antisymm h.packetIndex_le (of_decide_eq_true hfull)
  · have hroom : ctx.packetIndex < ncRendezvousSendQueueLength := by
      by_contra hfull
      exact hdrop (Bool.or_eq_true_iff.mpr (Or.inl (decide_eq_true (Nat.le_of_not_lt hfull))))
    refine Kept.sendDeviceRequest ⟨?_, hroom, h.sending, ?_, ?_, h.dropped⟩
    · exact List.length_set.trans h.packetList_length
    · have hpush := take_push ctx.packetList (h.packetList_length ▸ hroom) packet
      have hcontent := h.content
      simp only [onTheWay, queue] at hcontent ⊢
      rw [hpush, List.map_append, List.map_append, ← List.append_assoc]
      exact hcontent.append_right _
    · have hmove : (ctx.accepted ++ [packet] ++ ctx.dropped.map (·.packet)).Perm
          (ctx.accepted ++ ctx.dropped.map (·.packet) ++ [packet]) := by
        rw [List.append_assoc, List.append_assoc]
        exact List.perm_append_comm.append_left _
      exact hmove.trans (h.requested.append_right [packet])

/-- The items of a payload are one request after the other. -/
theorem handleItems_keeps {P : NcRendezvousContext → Prop}
    (hsend : ∀ ctx packet, P ctx → P (ncRendezvousSendRendezvous ctx packet))
    (connectionId : Vector UInt8 14) (items : List RendezvousItem) (h : P ctx) :
    P (handleRendezvousItems ctx connectionId items).2 := by
  induction items generalizing ctx with
  | nil => exact h
  | cons item items ih =>
    cases item with
    | other => exact h
    | map ip port =>
      unfold handleRendezvousItems
      cases (RendezvousItem.map ip port).ep? with
      | none => exact ih h
      | some ep => exact ih (hsend ctx ⟨ctRendezvousDeviceRequest, connectionId, ep⟩ h)

theorem NcRendezvousContext.Kept.packetSent (h : ctx.Kept) {ep : NpUdpEndpoint}
    {outstanding : List NpUdpEndpoint} (hout : ctx.outstanding = ep :: outstanding)
    (ec : NpErrorCode) :
    (ncRendezvousPacketSent ctx ep outstanding ec).Kept ∧
      (ncRendezvousPacketSent ctx ep outstanding ec).Idle := by
  have hlast : outstanding = [] := by
    have hsending := h.sending
    rw [hout] at hsending
    split_ifs at hsending
    exact List.length_eq_zero_iff.mp (Nat.succ.inj hsending)
  subst hlast
  refine Kept.sendDeviceRequest
    ⟨h.packetList_length, h.packetIndex_le, rfl, ?_, h.requested, h.dropped⟩
  have hcontent := h.content
  simp only [onTheWay, queue, hout] at hcontent ⊢
  rw [List.map_append, List.map_nil, List.append_nil]
  exact hcontent

end Queue

def NcRendezvousContext.Unused (ctx : NcRendezvousContext) : Prop :=
  ctx.udpDispatch = none ∧ ctx.packetIndex = 0

theorem NcRendezvousContext.Unused.sendRendezvous {ctx : NcRendezvousContext} (h : ctx.Unused)
    (packet : NcRendezvousSendPacket) : (ncRendezvousSendRendezvous ctx packet).Unused := by
  unfold ncRendezvousSendRendezvous
  dsimp only
  rw [if_pos (by simp [h.1])]
  exact h

theorem NcRendezvousContext.Unused.packetSent {ctx : NcRendezvousContext} (h : ctx.Unused)
    (ep : NpUdpEndpoint) (outstanding : List NpUdpEndpoint) (ec : NpErrorCode) :
    (ncRendezvousPacketSent ctx ep outstanding ec).Unused := by
  unfold ncRendezvousPacketSent ncRendezvousSendDeviceRequest
  rw [if_pos (by simp [h.1])]
  exact h

/-! ### Runs -/

namespace RendezvousDevice

variable {dev dev' : RendezvousDevice}

/-- The queue is kept, and the dispatcher that comes finds it empty. -/
structure Kept (dev : RendezvousDevice) : Prop where
  queue : dev.rendezvous.Kept
  idle : dev.rendezvous.Idle
  unused : dev.bound = false → dev.rendezvous.Unused

theorem Kept.udpBoundCb (h : dev.Kept) (hbound : dev.bound = false) (ec : NpErrorCode) (udp : ℕ) :
    (dev.udpBoundCb ec udp).Kept := by
  obtain ⟨hlength, hle, hsending, hcontent, hrequested, hdropped⟩ := h.queue
  unfold RendezvousDevice.udpBoundCb
  dsimp only
  split_ifs
  · exact ⟨h.queue, h.idle, nofun⟩
  · exact ⟨h.queue, h.idle, nofun⟩
  · exact ⟨⟨hlength, hle, hsending, hcontent, hrequested, hdropped⟩,
      fun _ _ => (h.unused hbound).2, nofun⟩

theorem kept_step {e : RendezvousEvent} (h : dev.Kept) (hs : rendezvousStep dev e = some dev') :
    dev'.Kept := by
  cases e with
  | start =>
    obtain ⟨-, rfl⟩ := Machine.of_guard_not hs
    exact ⟨h.queue, h.idle, h.unused⟩
  | udpBound ec udp =>
    obtain ⟨⟨-, hbound⟩, rfl⟩ := Machine.of_guard hs
    exact h.udpBoundCb hbound ec udp
  | close => exact Option.some.inj hs ▸ ⟨h.queue, h.idle, h.unused⟩
  | stop =>
    obtain ⟨hlength, hle, hsending, hcontent, hrequested, hdropped⟩ := h.queue
    cases hs
    exact ⟨⟨hlength, hle, hsending, hcontent, hrequested, hdropped⟩,
      (fun _ hdispatch => by cases hdispatch), fun hbound => ⟨rfl, (h.unused hbound).2⟩⟩
  | clientRequest ep connectionId =>
    cases hs
    obtain ⟨hqueue, hidle⟩ :=
      h.queue.sendRendezvous h.idle ⟨ctRendezvousClientResponse, connectionId, ep⟩
    exact ⟨hqueue, hidle, fun hbound => (h.unused hbound).sendRendezvous _⟩
  | coapRequest connectionId payload =>
    cases hs
    cases payload with
    | array items =>
      obtain ⟨hqueue, hidle⟩ := handleItems_keeps (P := fun ctx => ctx.Kept ∧ ctx.Idle)
        (fun _ packet h => h.1.sendRendezvous h.2 packet) connectionId items ⟨h.queue, h.idle⟩
      refine ⟨hqueue, hidle, fun hbound => ?_⟩
      exact handleItems_keeps (fun _ packet h => h.sendRendezvous packet) connectionId items
        (h.unused hbound)
    | other => exact h
  | packetSent ec =>
    cases hout : dev.rendezvous.outstanding with
    | nil => simp [rendezvousStep, hout] at hs
    | cons ep outstanding =>
      simp only [rendezvousStep, hout, Option.some.injEq] at hs
      obtain ⟨hqueue, hidle⟩ := h.queue.packetSent hout ec
      exact hs ▸ ⟨hqueue, hidle, fun hbound => (h.unused hbound).packetSent ep outstanding ec⟩

end RendezvousDevice

end NabtoDevice
