import NabtoDevice.Spec.StreamManager
import NabtoDevice.Sanity.Stream

/-! `nc_stream_destroy` takes the stream id and the DTLS connection out of a slot but
leaves `streamConns[i]`. A destroyed slot is therefore still found under stream id 0
and still told that its connection closed, and this file shows that nothing else can
go wrong: destroyed slots stay out of sight exactly if no stream is destroyed while
its connection is still known to the manager. -/

namespace NabtoDevice

/-- No stream id and no connection leads to a slot without a stream, now or in a
delivery of the past. -/
structure DestroyedUnseen (ctx : NcStreamManager) : Prop where
  found : ∀ streamId conn i slot, ncStreamManagerFindStream ctx streamId conn = some i →
    ctx.slots[i]? = some slot → slot.stream.active = true
  closed : ∀ conn answers, ∀ d ∈ (ncStreamManagerRemoveConnection ctx conn answers).deliveries,
    d.active = true
  delivered : ∀ d ∈ ctx.deliveries, d.active = true

structure AttachedActive (ctx : NcStreamManager) : Prop where
  attached : ∀ (i : ℕ) (slot : StreamSlot), ctx.slots[i]? = some slot → slot.conn ≠ none →
    slot.stream.active = true
  delivered : ∀ d ∈ ctx.deliveries, d.active = true

variable {ctx : NcStreamManager} {i : ℕ}

theorem findStream_some {streamId conn : ℕ}
    (h : ncStreamManagerFindStream ctx streamId conn = some i) :
    ∃ slot, ctx.slots[i]? = some slot ∧ slot.stream.streamId = streamId ∧
      slot.conn = some conn := by
  obtain ⟨hlt, hp, -⟩ := List.findIdx?_eq_some_iff_getElem.mp h
  refine ⟨ctx.slots[i], List.getElem?_eq_getElem hlt, ?_⟩
  simpa using hp

def closedDelivery (ctx : NcStreamManager) (conn i : ℕ) : Option Delivery :=
  (ctx.slots[i]?.filter (·.conn = some conn)).map fun slot =>
    ⟨.connectionClosed, i, slot.stream.active⟩

def closedSlot (listeners : List ℕ) (conn : ℕ) (answers : List NabtoStreamNextEvent)
    (slot : StreamSlot) : StreamSlot :=
  if slot.conn = some conn then
    ⟨ncStreamHandleConnectionClosed listeners slot.stream answers, none⟩
  else slot

theorem removeConnectionAt_slots (ctx : NcStreamManager) (conn : ℕ)
    (answers : ℕ → List NabtoStreamNextEvent) (i j : ℕ) :
    (removeConnectionAt ctx conn answers i).slots[j]? =
      if i = j then ctx.slots[j]?.map (closedSlot ctx.listeners conn (answers i))
      else ctx.slots[j]? := by
  unfold removeConnectionAt closedSlot
  by_cases hij : i = j
  · subst hij
    cases hi : ctx.slots[i]? with
    | none => simp [hi]
    | some slot => by_cases hc : slot.conn = some conn <;> simp [hi, hc, NcStreamManager.deliver]
  · split_ifs with hc
    · cases hi : ctx.slots[i]? with
      | none => simp [hi] at hc
      | some slot => simp [hi, hij, NcStreamManager.deliver]
    · rfl

theorem removeConnectionAt_deliveries (ctx : NcStreamManager) (conn : ℕ)
    (answers : ℕ → List NabtoStreamNextEvent) (i : ℕ) :
    (removeConnectionAt ctx conn answers i).deliveries =
      ctx.deliveries ++ (closedDelivery ctx conn i).toList := by
  unfold removeConnectionAt closedDelivery
  cases hi : ctx.slots[i]? with
  | none => simp
  | some slot =>
    by_cases hc : slot.conn = some conn <;> simp [hi, hc, NcStreamManager.deliver, Option.filter]

theorem removeConnectionAt_listeners (ctx : NcStreamManager) (conn : ℕ)
    (answers : ℕ → List NabtoStreamNextEvent) (i : ℕ) :
    (removeConnectionAt ctx conn answers i).listeners = ctx.listeners := by
  unfold removeConnectionAt NcStreamManager.deliver
  split_ifs
  · split <;> rfl
  · rfl

/-- The loop of `remove_connection` after its first `k` turns. -/
theorem removeConnection_prefix (ctx : NcStreamManager) (conn : ℕ)
    (answers : ℕ → List NabtoStreamNextEvent) (k : ℕ) :
    ∃ ctx', (List.range k).foldl (fun c i => removeConnectionAt c conn answers i) ctx = ctx' ∧
      ctx'.listeners = ctx.listeners ∧
      ctx'.deliveries = ctx.deliveries ++ (List.range k).filterMap (closedDelivery ctx conn) ∧
      ∀ j : ℕ, ctx'.slots[j]? =
        if j < k then ctx.slots[j]?.map (closedSlot ctx.listeners conn (answers j))
        else ctx.slots[j]? := by
  induction k with
  | zero => exact ⟨ctx, rfl, rfl, by simp, by simp⟩
  | succ k ih =>
    obtain ⟨mid, hmid, hl, hd, hs⟩ := ih
    refine ⟨removeConnectionAt mid conn answers k, ?_, ?_, ?_, fun j => ?_⟩
    · rw [List.range_succ, List.foldl_append, hmid]
      rfl
    · rw [removeConnectionAt_listeners, hl]
    · -- slot `k` is still as it was when its turn comes
      have hk : closedDelivery mid conn k = closedDelivery ctx conn k := by
        unfold closedDelivery
        rw [hs k, if_neg (lt_irrefl k)]
      rw [removeConnectionAt_deliveries, hd, hk, List.range_succ, List.filterMap_append,
        List.append_assoc]
      cases hk : closedDelivery ctx conn k <;> simp [hk]
    · rw [removeConnectionAt_slots, hl, hs j]
      by_cases hjk : k = j
      · subst hjk
        simp
      · have : j < k + 1 ↔ j < k := by omega
        simp only [if_neg hjk, this]

theorem removeConnection_deliveries (ctx : NcStreamManager) (conn : ℕ)
    (answers : ℕ → List NabtoStreamNextEvent) :
    (ncStreamManagerRemoveConnection ctx conn answers).deliveries =
      ctx.deliveries ++ (List.range ctx.slots.length).filterMap (closedDelivery ctx conn) := by
  obtain ⟨ctx', h, -, hd, -⟩ := removeConnection_prefix ctx conn answers ctx.slots.length
  rw [ncStreamManagerRemoveConnection, h, hd]

theorem removeConnection_slots (ctx : NcStreamManager) (conn : ℕ)
    (answers : ℕ → List NabtoStreamNextEvent) (j : ℕ) :
    (ncStreamManagerRemoveConnection ctx conn answers).slots[j]? =
      ctx.slots[j]?.map (closedSlot ctx.listeners conn (answers j)) := by
  obtain ⟨ctx', h, -, -, hs⟩ := removeConnection_prefix ctx conn answers ctx.slots.length
  rw [ncStreamManagerRemoveConnection, h, hs j]
  split_ifs with hj
  · rfl
  · rw [List.getElem?_eq_none (by omega)]
    rfl

theorem mem_closedDelivery {conn : ℕ} {d : Delivery} :
    d ∈ (List.range ctx.slots.length).filterMap (closedDelivery ctx conn) ↔
      ∃ i slot, ctx.slots[i]? = some slot ∧ slot.conn = some conn ∧
        d = ⟨.connectionClosed, i, slot.stream.active⟩ := by
  simp only [List.mem_filterMap, List.mem_range, closedDelivery, Option.map_eq_some_iff,
    Option.filter_eq_some_iff, decide_eq_true_eq]
  constructor
  · rintro ⟨i, -, slot, ⟨hi, hc⟩, rfl⟩
    exact ⟨i, slot, hi, hc, rfl⟩
  · rintro ⟨i, slot, hi, hc, rfl⟩
    exact ⟨i, (List.getElem?_eq_some_iff.mp hi).1, slot, ⟨hi, hc⟩, rfl⟩

theorem destroyedUnseen_iff (ctx : NcStreamManager) : DestroyedUnseen ctx ↔ AttachedActive ctx := by
  constructor
  · intro h
    refine ⟨fun i slot hi hc => ?_, h.delivered⟩
    obtain ⟨conn, hc⟩ := Option.ne_none_iff_exists'.mp hc
    refine h.closed conn (fun _ => []) ⟨.connectionClosed, i, slot.stream.active⟩ ?_
    rw [removeConnection_deliveries]
    exact List.mem_append_right _ (mem_closedDelivery.mpr ⟨i, slot, hi, hc, rfl⟩)
  · intro h
    refine ⟨fun streamId conn i slot hf hi => ?_, fun conn answers d hd => ?_, h.delivered⟩
    · obtain ⟨slot', hi', -, hc⟩ := findStream_some hf
      obtain rfl : slot' = slot := Option.some.inj (hi'.symm.trans hi)
      exact h.attached i slot' hi (by simp [hc])
    · rw [removeConnection_deliveries] at hd
      rcases List.mem_append.mp hd with hd | hd
      · exact h.delivered d hd
      · obtain ⟨i, slot, hi, hc, rfl⟩ := mem_closedDelivery.mp hd
        exact h.attached i slot hi (by simp [hc])

/-- The library releases a stream whose connection the manager still knows. -/
def releasesAttached (flags : NabtoStreamFlags) (ctx : NcStreamManager) : StreamManagerEvent → Bool
  | .packet conn connectionRef packet =>
    match packet.header with
    | none => false
    | some (streamId, packetFlags) =>
      match ncStreamManagerSlotFor flags ctx conn connectionRef streamId packetFlags packet.created with
      | none => false
      | some (i, ctx) =>
        ctx.slots[i]?.any fun slot => ncStreamNextEvent slot.stream packet.answers = .released
  | .queue i answers | .dtlsSent i answers =>
    ctx.slots[i]?.any fun slot =>
      slot.conn.isSome && decide (ncStreamNextEvent slot.stream answers = .released)
  | .removeConnection _ _ | .op _ _ | .rstSent | .addListener _ _ | .removeListener _ => false

variable {ctx' : NcStreamManager}

theorem AttachedActive.of_same (h : AttachedActive ctx) (hslots : ctx'.slots = ctx.slots)
    (hdeliveries : ctx'.deliveries = ctx.deliveries) : AttachedActive ctx' := by
  constructor
  · rw [hslots]
    exact h.attached
  · rw [hdeliveries]
    exact h.delivered

variable {slot : StreamSlot}

theorem getElem?_modify_of_some {slots : List StreamSlot} (hi : slots[i]? = some slot)
    (f : StreamSlot → StreamSlot)
    (j : ℕ) : (slots.modify i f)[j]? = if i = j then some (f slot) else slots[j]? := by
  rw [List.getElem?_modify]
  split_ifs with hij
  · subst hij
    rw [hi]
    rfl
  · exact Option.map_id'

/-- Where one slot changes, it alone decides. -/
theorem AttachedActive.changed_iff (slot : StreamSlot) (h : AttachedActive ctx)
    (hslots : ∀ j : ℕ, ctx'.slots[j]? = if i = j then some slot else ctx.slots[j]?)
    (hdelivered : ∀ d ∈ ctx'.deliveries, d.active = true) :
    AttachedActive ctx' ↔ (slot.conn ≠ none → slot.stream.active = true) := by
  constructor
  · intro h' hc
    exact h'.attached i slot (by rw [hslots, if_pos rfl]) hc
  · intro hslot
    refine ⟨fun j slot' hj hc => ?_, hdelivered⟩
    rw [hslots] at hj
    split_ifs at hj with hij
    · cases hj
      exact hslot hc
    · exact h.attached j slot' hj hc

theorem deliver_packet_iff {handle : NcStreamContext → NcStreamContext} (h : AttachedActive ctx)
    (hi : ctx.slots[i]? = some slot) (hc : slot.conn ≠ none) :
    AttachedActive (ctx.deliver .packet i handle) ↔ (handle slot.stream).active = true := by
  rw [AttachedActive.changed_iff (i := i) ⟨handle slot.stream, slot.conn⟩ h]
  · simp [hc]
  · intro j
    simp only [NcStreamManager.deliver, hi, getElem?_modify_of_some hi]
  · simp only [NcStreamManager.deliver, hi, List.mem_append, List.mem_singleton]
    rintro d (hd | rfl)
    · exact h.delivered d hd
    · exact h.attached i slot hi hc

theorem update_iff {handle : NcStreamContext → NcStreamContext} (h : AttachedActive ctx)
    (hi : ctx.slots[i]? = some slot) :
    AttachedActive (ctx.update i handle) ↔
      (slot.conn ≠ none → (handle slot.stream).active = true) := by
  rw [AttachedActive.changed_iff (i := i) ⟨handle slot.stream, slot.conn⟩ h]
  · exact getElem?_modify_of_some hi _
  · exact h.delivered

theorem acceptStream_some {conn connectionRef streamId : ℕ} {created : Bool}
    (h : ncStreamManagerAcceptStream ctx conn connectionRef streamId created = some (i, ctx')) :
    ∃ slot, ctx.slots[i]? = some slot ∧ slot.stream.active = false ∧
      ctx' = { ctx with slots := ctx.slots.modify i fun slot =>
        ⟨ncStreamInit slot.stream streamId conn connectionRef, some conn⟩ } := by
  unfold ncStreamManagerAcceptStream at h
  cases hfree : ctx.slots.findIdx? fun slot => !slot.stream.active with
  | none => simp [hfree] at h
  | some k =>
    obtain ⟨hlt, hinactive, -⟩ := List.findIdx?_eq_some_iff_getElem.mp hfree
    simp only [hfree] at h
    split_ifs at h
    obtain ⟨rfl, rfl⟩ := Prod.mk.inj (Option.some.inj h)
    exact ⟨_, List.getElem?_eq_getElem hlt, by simpa using hinactive, rfl⟩

/-- A packet only reaches a slot of its own connection, and after an accept all
attached slots still hold a stream. -/
theorem slotFor_some {flags : NabtoStreamFlags} {conn connectionRef streamId : ℕ}
    {packetFlags : UInt8} {created : Bool} (h : AttachedActive ctx)
    (hfor : ncStreamManagerSlotFor flags ctx conn connectionRef streamId packetFlags created =
      some (i, ctx')) :
    AttachedActive ctx' ∧ ∃ slot, ctx'.slots[i]? = some slot ∧ slot.conn = some conn ∧
      slot.stream.active = true := by
  unfold ncStreamManagerSlotFor at hfor
  split at hfor
  · rename_i k hfind
    obtain ⟨rfl, rfl⟩ := Prod.mk.inj (Option.some.inj hfor)
    obtain ⟨slot, hi, -, hc⟩ := findStream_some hfind
    exact ⟨h, slot, hi, hc, h.attached _ slot hi (by simp [hc])⟩
  · split_ifs at hfor
    obtain ⟨slot, hi, -, rfl⟩ := acceptStream_some hfor
    have hslots := getElem?_modify_of_some hi fun slot =>
      ⟨ncStreamInit slot.stream streamId conn connectionRef, some conn⟩
    exact ⟨Iff.mpr (AttachedActive.changed_iff _ h hslots h.delivered) fun _ => rfl,
      _, (hslots i).trans (if_pos rfl), rfl, rfl⟩

theorem handlePacket_iff (flags : NabtoStreamFlags) (h : AttachedActive ctx)
    (conn connectionRef : ℕ) (packet : StreamPacket) :
    AttachedActive (ncStreamManagerHandlePacket flags ctx conn connectionRef packet) ↔
      releasesAttached flags ctx (.packet conn connectionRef packet) = false := by
  simp only [ncStreamManagerHandlePacket, releasesAttached]
  cases hheader : packet.header with
  | none => simpa using h
  | some header =>
    obtain ⟨streamId, packetFlags⟩ := header
    dsimp only
    cases hfor : ncStreamManagerSlotFor flags ctx conn connectionRef streamId packetFlags
      packet.created with
    | some found =>
      obtain ⟨i, ctx'⟩ := found
      obtain ⟨h', slot, hi, hc, hactive⟩ := slotFor_some h hfor
      dsimp only
      rw [deliver_packet_iff h' hi (by simp [hc]), ncStreamHandlePacket, ncStreamEvent_active]
      simp [hactive, hi]
    | none =>
      -- a packet that reaches no stream touches no slot
      have hrst : AttachedActive (ncStreamManagerSendRst ctx packet.allocated) := by
        unfold ncStreamManagerSendRst
        split_ifs
        · exact h
        · exact h.of_same rfl rfl
      dsimp only
      split_ifs
      · simpa using hrst
      · simpa using h

theorem removeConnection_keeps (h : AttachedActive ctx) (conn : ℕ)
    (answers : ℕ → List NabtoStreamNextEvent) :
    AttachedActive (ncStreamManagerRemoveConnection ctx conn answers) := by
  refine ⟨fun i slot' hi' hc => ?_, ((destroyedUnseen_iff ctx).mpr h).closed conn answers⟩
  rw [removeConnection_slots] at hi'
  obtain ⟨slot, hi, rfl⟩ := Option.map_eq_some_iff.mp hi'
  unfold closedSlot at hc ⊢
  split_ifs at hc ⊢ with hconn
  · exact absurd rfl hc
  · exact h.attached i slot hi hc

theorem streamManagerStep_iff (flags : NabtoStreamFlags) {e : StreamManagerEvent}
    (h : AttachedActive ctx) (hs : streamManagerStep flags ctx e = some ctx') :
    AttachedActive ctx' ↔ releasesAttached flags ctx e = false := by
  cases e with
  | packet conn connectionRef packet =>
    cases hs
    exact handlePacket_iff flags h conn connectionRef packet
  | removeConnection conn answers =>
    cases hs
    exact iff_of_true (removeConnection_keeps h conn answers) rfl
  | queue i answers =>
    obtain ⟨slot, hi, rfl⟩ := Option.map_eq_some_iff.mp hs
    obtain ⟨hi, hactive⟩ := Option.filter_eq_some_iff.mp hi
    rw [update_iff h hi, ncStreamEvent_active]
    cases hc : slot.conn <;> simp_all [releasesAttached]
  | dtlsSent i answers =>
    obtain ⟨slot, hi, rfl⟩ := Option.map_eq_some_iff.mp hs
    obtain ⟨hi, -⟩ := Option.filter_eq_some_iff.mp hi
    rw [update_iff h hi, ncStreamDtlsSendCallback, ncStreamEvent_active]
    have hnext : ncStreamNextEvent { slot.stream with
        isSending := false, dtlsSends := slot.stream.dtlsSends.tail } answers =
        ncStreamNextEvent slot.stream answers := by
      apply ncStreamNextEvent_congr
      rfl
    have hactive := h.attached i slot hi
    rw [hnext]
    cases hc : slot.conn <;> simp_all [releasesAttached]
  | op i op =>
    obtain ⟨slot, hi, rfl⟩ := Option.map_eq_some_iff.mp hs
    rw [update_iff h hi, ncStreamOp_active]
    exact iff_of_true (h.attached i slot hi) rfl
  | rstSent =>
    obtain ⟨-, rfl⟩ := Machine.of_guard hs
    exact iff_of_true (h.of_same rfl rfl) rfl
  | addListener type draws =>
    cases hs
    have hkeeps : AttachedActive (ncStreamManagerAddListener ctx type draws).2 := by
      unfold ncStreamManagerAddListener
      split
      · exact h
      · split_ifs
        · exact h
        · exact h.of_same rfl rfl
    exact iff_of_true hkeeps rfl
  | removeListener type =>
    cases hs
    exact iff_of_true (h.of_same rfl rfl) rfl

/-- Destroyed slots stay out of sight over a run exactly if the library releases no
stream whose connection is still there. -/
theorem destroyed_slots_unseen_iff (flags : NabtoStreamFlags) (maxStreams : ℕ)
    {evs : List StreamManagerEvent} {s : NcStreamManager}
    (h : (streamManager flags maxStreams).Run evs s) :
    (∀ t, (streamManager flags maxStreams).Visits evs t → DestroyedUnseen t) ↔
      ∀ t e, (streamManager flags maxStreams).Takes evs t e →
        releasesAttached flags t e = false := by
  have hinit : AttachedActive (ncStreamManagerInit maxStreams) := by
    refine ⟨fun i slot hi hc => ?_, by simp [ncStreamManagerInit]⟩
    obtain ⟨hlt, rfl⟩ := List.getElem?_eq_some_iff.mp hi
    simp [ncStreamManagerInit] at hc
  refine h.good_iff_takes (fun _ => True) DestroyedUnseen
    (fun t e => releasesAttached flags t e = false) trivial ((destroyedUnseen_iff _).mpr hinit) ?_
  intro t e t' _ ht hstep
  rw [destroyedUnseen_iff] at ht ⊢
  exact ⟨streamManagerStep_iff flags ht hstep, fun _ => trivial⟩

def outlivingRun : List StreamManagerEvent :=
  [.addListener 80 fun _ => 0,
   .packet 7 1 ⟨[5, 2, 2, 0], 0, true, true, [.accept 80 true]⟩,
   .op 0 (.asyncReadSome 0 16 []),
   .removeConnection 7 fun _ => [.send 20 .ok, .released],
   .packet 8 2 ⟨[5, 0, 2, 0], 0, true, true, []⟩]

theorem destroyed_slots_unseen_outliving :
    (∃ s, (streamManager ⟨2, 4⟩ 10).Run outlivingRun s) ∧
      ∀ t, (streamManager ⟨2, 4⟩ 10).Visits outlivingRun t → DestroyedUnseen t := by
  have hrun : ∃ s, (streamManager ⟨2, 4⟩ 10).Run outlivingRun s := ⟨_, Machine.run_of_exec rfl⟩
  refine ⟨hrun, ?_⟩
  obtain ⟨s, hs⟩ := hrun
  rw [destroyed_slots_unseen_iff ⟨2, 4⟩ 10 hs]
  intro t e ht
  have hall : (streamManager ⟨2, 4⟩ 10).allTaken (fun t e => !releasesAttached ⟨2, 4⟩ t e)
      (ncStreamManagerInit 10) outlivingRun = true := by decide +kernel
  exact Machine.takes_eq_false_of_allTaken hall ht

/-- A stream nobody listens for is released and destroyed while its connection goes on:
its slot answers for stream id 0 of that connection, and hears of its end. -/
theorem destroyed_slot_found :
    ∃ s, (streamManager ⟨2, 4⟩ 10).Run
        [.packet 7 1 ⟨[5, 2, 2, 0], 0, true, true, [.accept 80 true]⟩,
         .queue 0 [.released],
         .packet 7 1 ⟨[5, 0, 1, 0], 0, true, true, []⟩] s ∧
      ncStreamManagerFindStream s 0 7 = some 0 ∧
      s.slots[0]?.map (·.stream.active) = some false ∧
      ⟨.packet, 0, false⟩ ∈ s.deliveries ∧
      ⟨.connectionClosed, 0, false⟩ ∈
        (ncStreamManagerRemoveConnection s 7 fun _ => []).deliveries ∧
      ¬ DestroyedUnseen s := by
  refine ⟨_, Machine.run_of_exec rfl, by decide +kernel, by decide +kernel, by decide +kernel,
    by decide +kernel, fun h => ?_⟩
  exact absurd (h.delivered ⟨.packet, 0, false⟩ (by decide +kernel)) (by decide)

end NabtoDevice
