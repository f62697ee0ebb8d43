import NabtoDevice.Proofs.StreamManager

/-! The stream manager works on its slots one by one. A relation between two states of a
slot that `nc_stream_init` and `nc_stream_event` keep is therefore kept by every step of
the manager at every slot. -/

namespace NabtoDevice

/-- All streams that a step of the manager asks for their next event, with the event, meet
a condition. -/
def allAsked (p : NcStreamContext → NabtoStreamNextEvent → Bool) (flags : NabtoStreamFlags)
    (ctx : NcStreamManager) : StreamManagerEvent → Bool
  | .packet conn connectionRef packet =>
    match packet.header with
    | none => true
    | some (streamId, packetFlags) =>
      match ncStreamManagerSlotFor flags ctx conn connectionRef streamId packetFlags packet.created with
      | none => true
      | some (i, ctx) => ctx.slots[i]?.all fun slot =>
          p slot.stream (ncStreamNextEvent slot.stream packet.answers)
  | .removeConnection conn answers =>
    (List.range ctx.slots.length).all fun i => ctx.slots[i]?.all fun slot =>
      slot.conn ≠ some conn ||
        p slot.stream (ncStreamNextEvent { slot.stream with dtls := none } (answers i))
  | .queue i answers | .dtlsSent i answers =>
    ctx.slots[i]?.all fun slot => p slot.stream (ncStreamNextEvent slot.stream answers)
  | .op _ _ | .rstSent | .addListener _ _ | .removeListener _ => true

/-- What a relation between states of a slot needs to be kept by the manager, where the
library's events meet the condition `p`. -/
structure SlotRule (R : NcStreamContext → NcStreamContext → Prop)
    (p : NcStreamContext → NabtoStreamNextEvent → Bool) : Prop where
  refl : ∀ x, R x x
  trans : ∀ x y z, R x y → R y z → R x z
  init : ∀ x streamId dtls connectionRef, x.active = false →
    R x (ncStreamInit x streamId dtls connectionRef)
  event : ∀ listeners x answers, p x (ncStreamNextEvent x answers) = true →
    R x (ncStreamEvent listeners x answers)
  closed : ∀ listeners x answers, p x (ncStreamNextEvent { x with dtls := none } answers) = true →
    R x (ncStreamHandleConnectionClosed listeners x answers)
  sent : ∀ listeners x answers, p x (ncStreamNextEvent x answers) = true →
    R x (ncStreamDtlsSendCallback listeners x answers)

/-- The callbacks of the DTLS layer clear a field and go on as for an event, so that it is enough if
the relation and the condition do not see those fields. -/
theorem SlotRule.of_event {R : NcStreamContext → NcStreamContext → Prop}
    {p : NcStreamContext → NabtoStreamNextEvent → Bool} (hrefl : ∀ x, R x x)
    (htrans : ∀ x y z, R x y → R y z → R x z)
    (hinit : ∀ x streamId dtls connectionRef, x.active = false →
      R x (ncStreamInit x streamId dtls connectionRef))
    (hevent : ∀ listeners x answers, p x (ncStreamNextEvent x answers) = true →
      R x (ncStreamEvent listeners x answers))
    (hclosed : ∀ x, R x { x with dtls := none } ∧ p { x with dtls := none } = p x)
    (hsent : ∀ x, R x { x with isSending := false, dtlsSends := x.dtlsSends.tail } ∧
      p { x with isSending := false, dtlsSends := x.dtlsSends.tail } = p x) : SlotRule R p where
  refl := hrefl
  trans := htrans
  init := hinit
  event := hevent
  closed listeners x answers h := by
    obtain ⟨hR, hp⟩ := hclosed x
    exact htrans _ _ _ hR (hevent listeners _ answers (by rw [hp]; exact h))
  sent listeners x answers h := by
    obtain ⟨hR, hp⟩ := hsent x
    have hnext : ncStreamNextEvent
      { x with isSending := false, dtlsSends := x.dtlsSends.tail } answers =
        ncStreamNextEvent x answers := by
      apply ncStreamNextEvent_congr
      rfl
    exact htrans _ _ _ hR (hevent listeners _ answers (by rw [hp, hnext]; exact h))

structure EachSlot (R : NcStreamContext → NcStreamContext → Prop) (a b : NcStreamManager) :
    Prop where
  length : b.slots.length = a.slots.length
  slots : ∀ (i : ℕ) (x y : StreamSlot), a.slots[i]? = some x → b.slots[i]? = some y →
    R x.stream y.stream

section

variable {R : NcStreamContext → NcStreamContext → Prop}
  {p : NcStreamContext → NabtoStreamNextEvent → Bool} {flags : NabtoStreamFlags}
  {ctx ctx' : NcStreamManager}

theorem EachSlot.of_slots (hrefl : ∀ x, R x x) (h : ctx'.slots = ctx.slots) :
    EachSlot R ctx ctx' := by
  refine ⟨congrArg List.length h, fun i x y hx hy => ?_⟩
  obtain rfl : x = y := Option.some.inj (hx.symm.trans (h ▸ hy))
  exact hrefl _

theorem EachSlot.trans {a b c : NcStreamManager} (htrans : ∀ x y z, R x y → R y z → R x z)
    (hab : EachSlot R a b) (hbc : EachSlot R b c) : EachSlot R a c := by
  refine ⟨hbc.length.trans hab.length, fun i x z hx hz => ?_⟩
  have hlt : i < b.slots.length := by
    rw [hab.length]
    exact (List.getElem?_eq_some_iff.mp hx).1
  have hy := List.getElem?_eq_getElem hlt
  exact htrans _ _ _ (hab.slots i x _ hx hy) (hbc.slots i _ z hy hz)

theorem EachSlot.modify (hrefl : ∀ x, R x x) {i : ℕ} {f : StreamSlot → StreamSlot}
    (hb : ctx'.slots = ctx.slots.modify i f)
    (h : ∀ slot, ctx.slots[i]? = some slot → R slot.stream (f slot).stream) :
    EachSlot R ctx ctx' := by
  refine ⟨by rw [hb, List.length_modify], fun j x y hx hy => ?_⟩
  rw [hb, List.getElem?_modify, hx] at hy
  split_ifs at hy with hij
  · subst hij
    cases hy
    exact h x hx
  · cases hy
    exact hrefl _

theorem SlotRule.slotFor (h : SlotRule R p) {conn connectionRef streamId i : ℕ}
    {packetFlags : UInt8} {created : Bool}
    (hfor : ncStreamManagerSlotFor flags ctx conn connectionRef streamId packetFlags created =
      some (i, ctx')) : EachSlot R ctx ctx' := by
  unfold ncStreamManagerSlotFor at hfor
  split at hfor
  · obtain ⟨rfl, rfl⟩ := Prod.mk.inj (Option.some.inj hfor)
    exact .of_slots h.refl rfl
  · split_ifs at hfor
    obtain ⟨slot, hi, hinactive, rfl⟩ := acceptStream_some hfor
    refine .modify h.refl rfl fun slot' hi' => ?_
    obtain rfl : slot = slot' := Option.some.inj (hi.symm.trans hi')
    exact h.init _ _ _ _ hinactive

theorem SlotRule.handlePacket (h : SlotRule R p) {conn connectionRef : ℕ} {packet : StreamPacket}
    (hasked : allAsked p flags ctx (.packet conn connectionRef packet) = true) :
    EachSlot R ctx (ncStreamManagerHandlePacket flags ctx conn connectionRef packet) := by
  simp only [allAsked] at hasked
  unfold ncStreamManagerHandlePacket
  cases hheader : packet.header with
  | none => exact .of_slots h.refl rfl
  | some header =>
    obtain ⟨streamId, packetFlags⟩ := header
    rw [hheader] at hasked
    dsimp only at hasked ⊢
    cases hfor : ncStreamManagerSlotFor flags ctx conn connectionRef streamId packetFlags
      packet.created with
    | none =>
      dsimp only
      unfold ncStreamManagerSendRst
      split_ifs <;> exact .of_slots h.refl rfl
    | some found =>
      obtain ⟨i, ctx'⟩ := found
      rw [hfor] at hasked
      dsimp only at hasked ⊢
      refine (h.slotFor hfor).trans h.trans ?_
      unfold NcStreamManager.deliver
      cases hi : ctx'.slots[i]? with
      | none => exact .of_slots h.refl rfl
      | some slot =>
        refine .modify h.refl rfl fun slot' hi' => ?_
        rw [hi'] at hasked
        exact h.event _ _ _ (by simpa using hasked)

theorem SlotRule.removeConnection (h : SlotRule R p) {conn : ℕ}
    {answers : ℕ → List NabtoStreamNextEvent}
    (hasked : allAsked p flags ctx (.removeConnection conn answers) = true) :
    EachSlot R ctx (ncStreamManagerRemoveConnection ctx conn answers) := by
  have hslots := removeConnection_slots ctx conn answers
  refine ⟨?_, fun i x y hx hy => ?_⟩
  · have hsame (j : ℕ) : (ncStreamManagerRemoveConnection ctx conn answers).slots.length ≤ j ↔
        ctx.slots.length ≤ j := by
      rw [← List.getElem?_eq_none_iff, ← List.getElem?_eq_none_iff, hslots j,
        Option.map_eq_none_iff]
    have := hsame ctx.slots.length
    have := hsame (ncStreamManagerRemoveConnection ctx conn answers).slots.length
    omega
  · rw [hslots i, hx] at hy
    cases hy
    unfold closedSlot
    split_ifs with hc
    · simp only [allAsked, List.all_eq_true, List.mem_range] at hasked
      have hi := hasked i (List.getElem?_eq_some_iff.mp hx).1
      rw [hx] at hi
      exact h.closed _ _ _ (by simpa [hc] using hi)
    · exact h.refl _

theorem SlotRule.managerStep (h : SlotRule R p) {e : StreamManagerEvent}
    (hop : ∀ i op, e ≠ .op i op) (hasked : allAsked p flags ctx e = true)
    (hs : streamManagerStep flags ctx e = some ctx') : EachSlot R ctx ctx' := by
  cases e with
  | packet conn connectionRef packet =>
    cases hs
    exact h.handlePacket hasked
  | removeConnection conn answers =>
    cases hs
    exact h.removeConnection hasked
  | queue i answers =>
    obtain ⟨slot, -, rfl⟩ := Option.map_eq_some_iff.mp hs
    refine .modify h.refl rfl fun slot' hi' => ?_
    simp only [allAsked, hi', Option.all_some] at hasked
    exact h.event _ _ _ hasked
  | dtlsSent i answers =>
    obtain ⟨slot, -, rfl⟩ := Option.map_eq_some_iff.mp hs
    refine .modify h.refl rfl fun slot' hi' => ?_
    simp only [allAsked, hi', Option.all_some] at hasked
    exact h.sent _ _ _ hasked
  | op i op => exact absurd rfl (hop i op)
  | rstSent =>
    obtain ⟨-, rfl⟩ := Machine.of_guard hs
    exact .of_slots h.refl rfl
  | addListener type draws =>
    cases hs
    unfold ncStreamManagerAddListener
    split
    · exact .of_slots h.refl rfl
    · split_ifs <;> exact .of_slots h.refl rfl
  | removeListener type =>
    cases hs
    exact .of_slots h.refl rfl

end

end NabtoDevice
