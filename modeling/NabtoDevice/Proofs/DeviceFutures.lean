import NabtoDevice.Sanity.DeviceFutures
import NabtoDevice.Proofs.StreamApi

/-! The futures of stream operations and of `nabto_device_close`. Accept, read and write
look at the future of the handle before they set it; the two close functions set it
first and ask the core afterwards, so a second close takes the place of the first one's
future. Apart from that, and from streams destroyed with callbacks registered, every
future is resolved once, with the result of its own operation. -/

namespace NabtoDevice

def FutureOp.Gives (slots : List StreamSlot) (ec : NpErrorCode) : FutureOp → Prop
  | .refused ec' => ec = ec'
  | .stream cb => ∃ slot ∈ slots, (cb, ec) ∈ slot.stream.calls
  | .close => ec = .ok

def FutureOp.Pending (d : DeviceFutures) (fut : ℕ) : FutureOp → Prop
  | .refused _ => False
  | .stream cb =>
    (∃ slot ∈ d.api.manager.slots, cb ∈ slot.stream.registered) ∧
      futureOf d.api.handles cb = some fut
  | .close => d.closeCb = true ∧ d.closeFut = some fut

/-- Each future passed is resolved at most once, waits only while its own operation is
pending in the core, and gets the result of its own operation. -/
structure FuturesSettled (d : DeviceFutures) : Prop where
  once : (d.api.resolved.map Prod.fst).Nodup
  waiting : ∀ fut op, (fut, op) ∈ d.ops → fut ∉ d.api.resolved.map Prod.fst → op.Pending d fut
  own : ∀ fut ec, (fut, ec) ∈ d.api.resolved →
    ∃ op, (fut, op) ∈ d.ops ∧ op.Gives d.api.manager.slots ec

def DeviceFutures.closing (d : DeviceFutures) : Option ℕ := if d.closeCb then d.closeFut else none

structure FuturesInv (d : DeviceFutures) : Prop where
  ledger : Ledger d.api.handles
    (pendingCallbacks d.api.manager.slots) d.closing d.api.resolved d.ops
  own : ∀ r ∈ d.api.resolved, ∃ op, (r.1, op) ∈ d.ops ∧ op.Gives d.api.manager.slots r.2

variable {ops : List (ℕ × FutureOp)}

theorem eq_of_mem_ops (h : (ops.map Prod.fst).Nodup) {fut : ℕ} {op op' : FutureOp}
    (hop : (fut, op) ∈ ops) (hop' : (fut, op') ∈ ops) : op = op' :=
  congrArg Prod.snd (List.inj_on_of_nodup_map h hop hop' rfl)

variable {d : DeviceFutures}

theorem FuturesInv.settled (h : FuturesInv d) : FuturesSettled d := by
  have hnodup := h.ledger.counted_nodup
  refine ⟨?_, fun fut op hop hnot => ?_, fun fut ec hmem => h.own (fut, ec) hmem⟩
  · have hres := (Multiset.nodup_add.mp hnodup).2.1
    rw [Multiset.coe_nodup] at hres
    have : (d.api.resolved.map fun r => some r.1) =
      (d.api.resolved.map Prod.fst).map some := by simp
    rw [this] at hres
    exact List.Nodup.of_map some hres
  · have hmem : some fut ∈
        ((d.ops.map fun o => some o.1 : List (Option ℕ)) : Multiset (Option ℕ)) :=
      Multiset.mem_coe.mpr (List.mem_map.mpr ⟨_, hop, rfl⟩)
    rw [← h.ledger.counted, Multiset.mem_add, Multiset.mem_add] at hmem
    rcases hmem with (hpend | hclose) | hres
    · obtain ⟨cb, hcb, hfut⟩ := Multiset.mem_map.mp hpend
      obtain ⟨fut', hfut', hop'⟩ := h.ledger.owned cb hcb
      obtain rfl : fut' = fut := Option.some.inj (hfut'.symm.trans hfut)
      rw [eq_of_mem_ops h.ledger.distinct hop hop']
      exact ⟨mem_pendingCallbacks.mp hcb, hfut⟩
    · obtain ⟨fut', hmem', heq⟩ := List.mem_map.mp (Multiset.mem_coe.mp hclose)
      obtain rfl : fut' = fut := Option.some.inj heq
      have hclosing : d.closing = some fut' := Option.mem_toList.mp hmem'
      rw [eq_of_mem_ops h.ledger.distinct hop (h.ledger.pendingClose fut' hclosing)]
      unfold DeviceFutures.closing at hclosing
      split_ifs at hclosing with hcb
      exact ⟨hcb, hclosing⟩
    · obtain ⟨r, hr, heq⟩ := List.mem_map.mp (Multiset.mem_coe.mp hres)
      exact absurd (List.mem_map.mpr ⟨r, hr, Option.some.inj heq⟩) hnot

theorem runCore_ledger (api : StreamApi) {manager : NcStreamManager}
    {pend : Multiset NcStreamCallback} {closing : Option ℕ}
    (hpend : pend = ((callsBetween api.manager.slots manager.slots).map Prod.fst :
      List NcStreamCallback) + pendingCallbacks manager.slots)
    (h : Ledger api.handles pend closing api.resolved ops) :
    Ledger (api.runCore manager).handles (pendingCallbacks manager.slots) closing
      (api.runCore manager).resolved ops ∧
    ∀ r ∈ (api.runCore manager).resolved, r ∈ api.resolved ∨
      ∃ cb, (r.1, .stream cb) ∈ ops ∧ ∃ slot ∈ manager.slots, (cb, r.2) ∈ slot.stream.calls := by
  rw [hpend] at h
  have hmade := h.append_handles (StreamApi.newHandles api.manager manager)
  obtain ⟨hledger, hnew⟩ := Ledger.callbacks (callsBetween api.manager.slots manager.slots)
    { api with
      manager := manager, handles := api.handles ++ StreamApi.newHandles api.manager manager } hmade
  refine ⟨hledger, fun r hr => ?_⟩
  rcases hnew r hr with hr | ⟨cb, hops, hmem⟩
  · exact .inl hr
  · exact .inr ⟨cb, hops, exists_of_mem_callsBetween hmem⟩

/-- Results that were given stay in the logs of the slots. -/
theorem FutureOp.Gives.mono {slots slots' : List StreamSlot} {ec : NpErrorCode} {op : FutureOp}
    (hgrow : ∀ slot ∈ slots, ∃ slot' ∈ slots', slot.stream.calls <+: slot'.stream.calls)
    (h : op.Gives slots ec) : op.Gives slots' ec := by
  cases op with
  | refused | close => exact h
  | stream cb =>
    obtain ⟨slot, hslot, hmem⟩ := h
    obtain ⟨slot', hslot', hpre⟩ := hgrow slot hslot
    exact ⟨slot', hslot', hpre.subset hmem⟩

theorem FuturesInv.core (h : FuturesInv d) {manager : NcStreamManager}
    (hset : EachSlot Settles d.api.manager manager) :
    FuturesInv { d with api := d.api.runCore manager } := by
  have hpairs : List.Forall₂ (fun x y : StreamSlot => Settles x.stream y.stream)
      d.api.manager.slots manager.slots := by
    refine List.forall₂_iff_get.mpr ⟨hset.length.symm, fun i hi hi' => ?_⟩
    exact hset.slots i _ _ (List.getElem?_eq_getElem hi) (List.getElem?_eq_getElem hi')
  have hmanager : (d.api.runCore manager).manager = manager := (runCore_same d.api manager).manager
  obtain ⟨hledger, hnew⟩ := runCore_ledger d.api (pendingCallbacks_settled hpairs) h.ledger
  have hgrow : ∀ slot ∈ d.api.manager.slots,
      ∃ slot' ∈ manager.slots, slot.stream.calls <+: slot'.stream.calls := by
    intro slot hslot
    obtain ⟨i, hi, rfl⟩ := List.getElem_of_mem hslot
    have hi' : i < manager.slots.length := by rw [hset.length]; exact hi
    obtain ⟨new, hcalls, -⟩ :=
      hset.slots i _ _ (List.getElem?_eq_getElem hi) (List.getElem?_eq_getElem hi')
    exact ⟨_, List.getElem_mem hi', hcalls ▸ List.prefix_append _ _⟩
  constructor
  · rw [hmanager]
    exact hledger
  · rw [hmanager]
    intro r hr
    rcases hnew r hr with hr | ⟨cb, hops, hcalled⟩
    · obtain ⟨op, hop, hgives⟩ := h.own r hr
      exact ⟨op, hop, hgives.mono hgrow⟩
    · exact ⟨.stream cb, hops, hcalled⟩

def Accounts (added : Multiset NcStreamCallback) (x y : NcStreamContext) : Prop :=
  ∃ new, y.calls = x.calls ++ new ∧
    added + x.registered = (new.map Prod.fst : List NcStreamCallback) + y.registered

variable {str : NabtoDeviceStream} {slot : StreamSlot} {op : StreamOp}

/-- An operation of the core through a handle whose callback, if it registers one, is
already in the ledger. -/
theorem coreOp_ledger (api : StreamApi) {added : Multiset NcStreamCallback} {closing : Option ℕ}
    (hslot : api.manager.slots[str.slot]? = some slot)
    (hacc : Accounts added slot.stream (ncStreamOp slot.stream op).2)
    (h : Ledger api.handles (added + pendingCallbacks api.manager.slots) closing api.resolved ops)
    (hown : ∀ r ∈ api.resolved, ∃ op, (r.1, op) ∈ ops ∧ op.Gives api.manager.slots r.2) :
    Ledger (api.coreOp str op).2.handles (pendingCallbacks (api.coreOp str op).2.manager.slots)
      closing (api.coreOp str op).2.resolved ops ∧
    ∀ r ∈ (api.coreOp str op).2.resolved, ∃ o, (r.1, o) ∈ ops ∧
      o.Gives (api.coreOp str op).2.manager.slots r.2 := by
  obtain ⟨new, hcalls, hreg⟩ := hacc
  set handle : StreamSlot → StreamSlot := fun slot =>
    { slot with stream := (ncStreamOp slot.stream op).2 } with hhandle
  have hbetween : callsBetween api.manager.slots (api.manager.slots.modify str.slot handle) =
      new := by
    rw [callsBetween_modify hslot handle]
    simp [hhandle, hcalls]
  have hpend : added + pendingCallbacks api.manager.slots =
      (new.map Prod.fst : List NcStreamCallback) +
        pendingCallbacks (api.manager.slots.modify str.slot handle) := by
    have hmodify := pendingCallbacks_modify hslot handle
    refine add_right_cancel (b := (slot.stream.registered : Multiset NcStreamCallback)) ?_
    rw [add_right_comm, hreg, add_assoc, add_assoc, hmodify]
    exact congrArg _ (add_comm _ _)
  have hgrow : ∀ x ∈ api.manager.slots, ∃ y ∈ api.manager.slots.modify str.slot handle,
      x.stream.calls <+: y.stream.calls := by
    intro x hx
    obtain ⟨i, hi⟩ := List.mem_iff_getElem?.mp hx
    by_cases hii : str.slot = i
    · subst hii
      obtain rfl : slot = x := Option.some.inj (hslot.symm.trans hi)
      refine ⟨handle slot, List.mem_of_getElem? (i := str.slot) ?_, hcalls ▸ List.prefix_append _ _⟩
      simp [hslot]
    · refine ⟨x, List.mem_of_getElem? (i := i) ?_, List.prefix_refl _⟩
      simp [hi, hii]
  simp only [StreamApi.coreOp, hslot]
  set touched : StreamApi := { api with touches := api.touches ++
    [Touch.mk str.incarnation slot.stream.incarnation slot.stream.active] } with htouched
  set manager := api.manager.update str.slot fun stream => (ncStreamOp stream op).2 with hmanager
  have hrun : (touched.runCore manager).manager = manager := (runCore_same touched manager).manager
  have hpend' : added + pendingCallbacks api.manager.slots =
      ((callsBetween touched.manager.slots manager.slots).map Prod.fst : List NcStreamCallback) +
        pendingCallbacks manager.slots := by
    show _ = ((callsBetween api.manager.slots (api.manager.slots.modify str.slot handle)).map
      Prod.fst : List NcStreamCallback) + pendingCallbacks (api.manager.slots.modify str.slot handle)
    rw [hbetween, hpend]
  obtain ⟨hledger, hnew⟩ := runCore_ledger touched hpend' h
  rw [hrun]
  refine ⟨hledger, fun r hr => ?_⟩
  rcases hnew r hr with hr | ⟨cb, hops, hcalled⟩
  · obtain ⟨o, ho, hgives⟩ := hown r hr
    exact ⟨o, ho, hgives.mono hgrow⟩
  · exact ⟨.stream cb, hops, hcalled⟩

theorem async_accounts (ctx : NcStreamContext) {kind : StreamCallbackKind} {userData : ℕ}
    (hop : op.callback = some (kind, userData)) :
    ((ncStreamOp ctx op).1 ≠ .ok ∧ Accounts 0 ctx (ncStreamOp ctx op).2) ∨
    ((ncStreamOp ctx op).1 = .ok ∧
      Accounts {ctx.newCallback kind userData} ctx (ncStreamOp ctx op).2) := by
  rcases ncStreamOp_async ctx hop with hbusy | ⟨hok, mid, hreg, hcalls, hres⟩
  · rw [hbusy]
    exact .inl ⟨by simp, [], by simp, by simp⟩
  · obtain ⟨new, hnew, hsettled⟩ := hres.settles
    refine .inr ⟨hok, new, hcalls ▸ hnew, ?_⟩
    rw [← hsettled]
    exact hreg.pending.symm

variable {api : StreamApi}

/-- A refused operation leaves everything but the record of the touch as it was. -/
theorem coreOp_refused {kind : StreamCallbackKind} {userData : ℕ}
    (hop : op.callback = some (kind, userData)) (hrefused : (api.coreOp str op).1 ≠ .ok) :
    (api.coreOp str op).2.manager.slots = api.manager.slots ∧
    (api.coreOp str op).2.handles = api.handles ∧
    (api.coreOp str op).2.resolved = api.resolved := by
  unfold StreamApi.coreOp at hrefused ⊢
  cases hslot : api.manager.slots[str.slot]? with
  | none => exact ⟨rfl, rfl, rfl⟩
  | some slot =>
    simp only [hslot] at hrefused ⊢
    have hbusy : ncStreamOp slot.stream op = (.operationInProgress, slot.stream) := by
      rcases ncStreamOp_async slot.stream hop with hbusy | ⟨hok, -⟩
      · exact hbusy
      · exact absurd hok hrefused
    have hslots : (api.manager.update str.slot fun stream => (ncStreamOp stream op).2).slots =
        api.manager.slots := by
      apply List.ext_getElem?
      intro j
      simp only [NcStreamManager.update, getElem?_modify_of_some hslot]
      split_ifs with hj
      · rw [← hj, hslot, hbusy]
      · rfl
    have hhandles : StreamApi.newHandles api.manager
        (api.manager.update str.slot fun stream => (ncStreamOp stream op).2) = [] := by
      refine newHandles_eq_nil fun j x y hx hy => ?_
      rw [hslots] at hy
      rw [Option.some.inj (hx.symm.trans hy)]
    have hcalls : StreamApi.newCalls api.manager
        (api.manager.update str.slot fun stream => (ncStreamOp stream op).2) = [] := by
      unfold StreamApi.newCalls
      rw [hslots]
      exact callsBetween_self _
    simpa only [StreamApi.runCore, hcalls, hhandles, List.foldl_nil, List.append_nil, and_true]
      using hslots

section

variable {d : DeviceFutures} {i fut : ℕ} {str : NabtoDeviceStream} {kind : StreamCallbackKind}
  {op : StreamOp} {setFut : NabtoDeviceStream → NabtoDeviceStream}

/-- A handle is given a new future for a kind of operation that is not pending. -/
theorem futureOf_setFut (hother : ∀ str k, k ≠ kind → (setFut str).future k = str.future k)
    (hfree : ∀ cb ∈ pendingCallbacks d.api.manager.slots, cb.userData = i → cb.kind ≠ kind) :
    ∀ cb ∈ pendingCallbacks d.api.manager.slots,
      futureOf (d.api.handles.modify i setFut) cb = futureOf d.api.handles cb :=
  fun cb hcb => futureOf_modify fun hu str => hother str _ (hfree cb hcb hu)

theorem FuturesInv.started (h : FuturesInv d) (hi : d.api.handles[i]? = some str)
    (hslot : d.api.manager.slots[str.slot]? = some slot) (hop : op.callback = some (kind, i))
    (hset : ∀ str, (setFut str).future kind = some fut)
    (hother : ∀ str k, k ≠ kind → (setFut str).future k = str.future k)
    (hfree : ∀ cb ∈ pendingCallbacks d.api.manager.slots, cb.userData = i → cb.kind ≠ kind)
    (hnew : fut ∉ d.ops.map Prod.fst) (hok : (ncStreamOp slot.stream op).1 = .ok) :
    FuturesInv { d with
      api := ((d.api.modifyHandle i setFut).coreOp str op).2
      ops := d.ops ++ [(fut, .stream (slot.stream.newCallback kind i))] } := by
  have hacc : Accounts {slot.stream.newCallback kind i} slot.stream
      (ncStreamOp slot.stream op).2 := by
    rcases async_accounts slot.stream hop with ⟨hne, -⟩ | ⟨-, hacc⟩
    · exact absurd hok hne
    · exact hacc
  have hfut : futureOf (d.api.handles.modify i setFut) (slot.stream.newCallback kind i) =
      some fut := by
    simp [futureOf, NcStreamContext.newCallback, hi, hset]
  have hledger := h.ledger.register hnew hfut (futureOf_setFut hother hfree)
  rw [← Multiset.singleton_add] at hledger
  obtain ⟨hledger', hown⟩ := coreOp_ledger (d.api.modifyHandle i setFut) hslot hacc hledger
    fun r hr => by
      obtain ⟨o, ho, hgives⟩ := h.own r hr
      exact ⟨o, List.mem_append_left _ ho, hgives⟩
  exact ⟨hledger', hown⟩

theorem FuturesInv.refused (h : FuturesInv d) {ec : NpErrorCode}
    (hop : op.callback = some (kind, i))
    (hfree : ∀ cb ∈ pendingCallbacks d.api.manager.slots, cb.userData = i → cb.kind ≠ kind)
    (hnew : fut ∉ d.ops.map Prod.fst)
    (hrefused : ((d.api.modifyHandle i setFut).coreOp str op).1 ≠ .ok)
    (hmanager : api.manager = ((d.api.modifyHandle i setFut).coreOp str op).2.manager)
    (hresolved : api.resolved = ((d.api.modifyHandle i setFut).coreOp str op).2.resolved ++
      [(fut, ec)])
    (hhandles : ∀ cb, (cb.userData = i → cb.kind ≠ kind) →
      futureOf api.handles cb = futureOf d.api.handles cb) :
    FuturesInv { d with api := api, ops := d.ops ++ [(fut, .refused ec)] } := by
  obtain ⟨hslots, -, hres⟩ := coreOp_refused hop hrefused
  have hslots' : api.manager.slots = d.api.manager.slots := by
    rw [hmanager]
    exact hslots
  have hres' : api.resolved = d.api.resolved ++ [(fut, ec)] := by
    rw [hresolved, hres]
    rfl
  have hledger :=
    (h.ledger.of_handles api.handles fun cb hcb => hhandles cb (hfree cb hcb)).refuse hnew ec
  refine ⟨?_, fun r hr => ?_⟩
  · rw [hslots', hres']
    exact hledger
  · rw [hslots']
    rw [hres', List.mem_append, List.mem_singleton] at hr
    rcases hr with hr | rfl
    · obtain ⟨o, ho, hgives⟩ := h.own r hr
      exact ⟨o, List.mem_append_left _ ho, hgives⟩
    · exact ⟨.refused ec, List.mem_append_right _ (List.mem_singleton_self _), rfl⟩

theorem coreAnswer_started (kind : StreamCallbackKind) (refusal : NpErrorCode → NpErrorCode)
    (hslot : api.manager.slots[str.slot]? = some slot) (hok : (ncStreamOp slot.stream op).1 = .ok) :
    coreAnswer api i str kind op refusal = .stream (slot.stream.newCallback kind i) := by
  simp [coreAnswer, hslot, hok]

theorem coreAnswer_refused (kind : StreamCallbackKind)
    (setFut : NabtoDeviceStream → NabtoDeviceStream)
    (refusal : NpErrorCode → NpErrorCode)
    (hrefused : ((api.modifyHandle i setFut).coreOp str op).1 ≠ .ok) :
    coreAnswer api i str kind op refusal =
      .refused (refusal ((api.modifyHandle i setFut).coreOp str op).1) := by
  cases hslot : api.manager.slots[str.slot]? with
  | none => simp [coreAnswer, StreamApi.coreOp, StreamApi.modifyHandle, hslot]
  | some slot =>
    have hcode : ((api.modifyHandle i setFut).coreOp str op).1 = (ncStreamOp slot.stream op).1 := by
      simp [StreamApi.coreOp, StreamApi.modifyHandle, hslot]
    rw [hcode] at hrefused
    simp [coreAnswer, hslot, hrefused, hcode]

/-- A call that asks the core. `after` is what it does when the core refuses. -/
theorem FuturesInv.coreCall (h : FuturesInv d) (kind : StreamCallbackKind)
    (hi : d.api.handles[i]? = some str) (hop : op.callback = some (kind, i))
    (hfree : ∀ cb ∈ pendingCallbacks d.api.manager.slots, cb.userData = i → cb.kind ≠ kind)
    (hnew : fut ∉ d.ops.map Prod.fst) (refusal : NpErrorCode → NpErrorCode)
    (after : StreamApi → NpErrorCode → StreamApi)
    (hafter : ∀ api ec, (after api ec).manager = api.manager ∧
      (after api ec).resolved = api.resolved ++ [(fut, refusal ec)] ∧
      ∀ cb, (cb.userData = i → cb.kind ≠ kind) →
        futureOf (after api ec).handles cb = futureOf api.handles cb) :
    FuturesInv { d with
      api := if ((d.api.modifyHandle i (·.withFuture kind fut)).coreOp str op).1 = .ok then
          ((d.api.modifyHandle i (·.withFuture kind fut)).coreOp str op).2
        else after ((d.api.modifyHandle i (·.withFuture kind fut)).coreOp str op).2
          ((d.api.modifyHandle i (·.withFuture kind fut)).coreOp str op).1
      ops := d.ops ++ [(fut, coreAnswer d.api i str kind op refusal)] } := by
  have hset (str : NabtoDeviceStream) : (str.withFuture kind fut).future kind = some fut := by
    rw [str.future_withFuture, if_pos rfl]
  have hother (str : NabtoDeviceStream) (k : StreamCallbackKind) (hk : k ≠ kind) :
      (str.withFuture kind fut).future k = str.future k := by
    rw [str.future_withFuture, if_neg hk]
  split_ifs with hok
  · cases hslot : d.api.manager.slots[str.slot]? with
    | none => simp [StreamApi.coreOp, StreamApi.modifyHandle, hslot] at hok
    | some slot =>
      have hok' : (ncStreamOp slot.stream op).1 = .ok := by
        simpa [StreamApi.coreOp, StreamApi.modifyHandle, hslot] using hok
      rw [coreAnswer_started kind refusal hslot hok']
      exact h.started hi hslot hop hset hother hfree hnew hok'
  · obtain ⟨hmanager, hresolved, hhandles⟩ := hafter
      ((d.api.modifyHandle i (·.withFuture kind fut)).coreOp str op).2
      ((d.api.modifyHandle i (·.withFuture kind fut)).coreOp str op).1
    rw [coreAnswer_refused kind _ refusal hok]
    refine h.refused hop hfree hnew hok hmanager hresolved fun cb hcb => ?_
    obtain ⟨-, hsame, -⟩ := coreOp_refused hop hok
    rw [hhandles cb hcb, hsame]
    exact futureOf_modify fun hu str => hother str _ (hcb hu)

theorem FuturesInv.resolveOwn (h : FuturesInv d) (hnew : fut ∉ d.ops.map Prod.fst)
    (ec : NpErrorCode) :
    FuturesInv { d with
      api := d.api.resolve (some fut) ec, ops := d.ops ++ [(fut, .refused ec)] } := by
  refine ⟨h.ledger.refuse hnew ec, fun r hr => ?_⟩
  rcases List.mem_append.mp hr with hr | hr
  · obtain ⟨o, ho, hgives⟩ := h.own r hr
    exact ⟨o, List.mem_append_left _ ho, hgives⟩
  · rw [List.mem_singleton.mp hr]
    exact ⟨.refused ec, List.mem_append_right _ (List.mem_singleton_self _), rfl⟩

/-- A kind of operation whose field is empty has no callback registered for the handle. -/
theorem FuturesInv.free_of_none (h : FuturesInv d) (hi : d.api.handles[i]? = some str)
    (hnone : str.future kind = none) :
    ∀ cb ∈ pendingCallbacks d.api.manager.slots, cb.userData = i → cb.kind ≠ kind := by
  intro cb hcb hu hk
  obtain ⟨fut, hfut, -⟩ := h.ledger.owned cb hcb
  rw [futureOf, hu, hk, hi, Option.bind_some, hnone] at hfut
  cases hfut

/-- A call that is refused while the future of an earlier one is set. -/
theorem FuturesInv.guardedCall (h : FuturesInv d) (kind : StreamCallbackKind)
    (hi : d.api.handles[i]? = some str) (hop : op.callback = some (kind, i))
    (hnew : fut ∉ d.ops.map Prod.fst) (refusal : NpErrorCode → NpErrorCode)
    (after : StreamApi → NpErrorCode → StreamApi)
    (hafter : ∀ api ec, (after api ec).manager = api.manager ∧
      (after api ec).resolved = api.resolved ++ [(fut, refusal ec)] ∧
      ∀ cb, (cb.userData = i → cb.kind ≠ kind) →
        futureOf (after api ec).handles cb = futureOf api.handles cb) :
    FuturesInv { d with
      api := if (str.future kind).isSome then d.api.resolve (some fut) .operationInProgress
        else if ((d.api.modifyHandle i (·.withFuture kind fut)).coreOp str op).1 = .ok then
          ((d.api.modifyHandle i (·.withFuture kind fut)).coreOp str op).2
        else after ((d.api.modifyHandle i (·.withFuture kind fut)).coreOp str op).2
          ((d.api.modifyHandle i (·.withFuture kind fut)).coreOp str op).1
      ops := d.ops ++ [(fut, if (str.future kind).isSome then .refused .operationInProgress
        else coreAnswer d.api i str kind op refusal)] } := by
  cases hset : str.future kind with
  | some old => exact h.resolveOwn hnew _
  | none => exact h.coreCall kind hi hop (h.free_of_none hi hset) hnew refusal after hafter

theorem FuturesInv.release (h : FuturesInv d)
    (hkeep : ∀ str k, (setFut str).future k = str.future k) :
    FuturesInv { d with api := ((d.api.modifyHandle i setFut).coreOp str .release).2 } := by
  have hledger := h.ledger.of_handles (d.api.handles.modify i setFut)
    fun cb _ => futureOf_modify fun _ str => hkeep str _
  cases hslot : d.api.manager.slots[str.slot]? with
  | none =>
    have hcore : (d.api.modifyHandle i setFut).coreOp str .release =
        (.unknown, d.api.modifyHandle i setFut) := by
      simp [StreamApi.coreOp, StreamApi.modifyHandle, hslot]
    rw [hcore]
    exact ⟨hledger, h.own⟩
  | some slot =>
    have hacc : Accounts 0 slot.stream (ncStreamOp slot.stream .release).2 :=
      ⟨[], by simp [ncStreamOp, ncStreamRelease], by
        simp [ncStreamOp, ncStreamRelease, NcStreamContext.registered]⟩
    rw [← zero_add (pendingCallbacks d.api.manager.slots)] at hledger
    obtain ⟨hledger', hown⟩ :=
      coreOp_ledger (d.api.modifyHandle i setFut) hslot hacc hledger h.own
    exact ⟨hledger', hown⟩

end

/-- The step that goes wrong: a close of a stream or of the device while one is pending, or
a stream destroyed with callbacks registered. -/
def losesFuture (flags : NabtoStreamFlags) (d : DeviceFutures) : DeviceFuturesEvent → Bool
  | .stream (.core e) => !allAsked keepsCallbacks flags d.api.manager e
  | .stream (.call h (.close _ _)) => d.api.manager.slots.any fun slot =>
      slot.stream.registered.any fun cb => decide (cb.userData = h ∧ cb.kind = .close)
  | .deviceClose _ => d.closeCb
  | _ => false

theorem FuturesInv.call (h : FuturesInv d) {flags : NabtoStreamFlags} {i : ℕ} {call : StreamCall}
    (hi : d.api.handles[i]? = some str) (hnew : ∀ fut ∈ call.future, fut ∉ d.ops.map Prod.fst)
    (hkeeps : losesFuture flags d (.stream (.call i call)) = false) :
    FuturesInv { d with
      api := streamCall d.api i str call, ops := d.ops ++ (callOp d.api i str call).toList } := by
  cases call with
  | accept fut =>
    exact h.guardedCall .accept hi rfl (hnew fut rfl) id (fun api ec => api.resolve (some fut) ec)
      fun _ _ => ⟨rfl, rfl, fun _ _ => rfl⟩
  | readAll fut bufferLength answers =>
    refine h.guardedCall .read hi rfl (hnew fut rfl) (fun _ => .operationInProgress)
      (fun api _ => (api.resolve (some fut) .operationInProgress).modifyHandle i fun str =>
        { str with readFut := none }) fun _ _ => ⟨rfl, rfl, fun cb hcb => ?_⟩
    -- only here the field is cleared again
    refine futureOf_modify fun hu str => ?_
    cases hk : cb.kind with
    | read => exact absurd hk (hcb hu)
    | accept | write | close => rfl
  | readSome fut bufferLength answers =>
    exact h.guardedCall .read hi rfl (hnew fut rfl) (fun _ => .operationInProgress)
      (fun api _ => api.resolve (some fut) .operationInProgress) fun _ _ =>
        ⟨rfl, rfl, fun _ _ => rfl⟩
  | write fut buffer answers =>
    exact h.guardedCall .write hi rfl (hnew fut rfl) (fun _ => .operationInProgress)
      (fun api _ => api.resolve (some fut) .operationInProgress) fun _ _ =>
        ⟨rfl, rfl, fun _ _ => rfl⟩
  | close fut status =>
    -- the only call that does not look at its field first
    have hfree : ∀ cb ∈ pendingCallbacks d.api.manager.slots, cb.userData = i →
        cb.kind ≠ .close := by
      intro cb hcb hu hk
      obtain ⟨slot, hslot, hreg⟩ := mem_pendingCallbacks.mp hcb
      have hnone : losesFuture flags d (.stream (.call i (.close fut status))) = true :=
        List.any_eq_true.mpr ⟨slot, hslot, List.any_eq_true.mpr ⟨cb, hreg, decide_eq_true ⟨hu, hk⟩⟩⟩
      cases hnone.symm.trans hkeeps
    exact h.coreCall .close hi rfl hfree (hnew fut rfl) (fun _ => .operationInProgress)
      (fun api _ => api.resolve (some fut) .operationInProgress) fun _ _ =>
        ⟨rfl, rfl, fun _ _ => rfl⟩
  | abort =>
    simp only [streamCall, nabtoDeviceStreamAbort, callOp, Option.toList_none, List.append_nil]
    exact h.release fun str k => by cases k <;> rfl
  | free =>
    simp only [streamCall, nabtoDeviceStreamFree, callOp, Option.toList_none, List.append_nil]
    exact h.release fun str k => by cases k <;> rfl

theorem FuturesInv.deviceClose (h : FuturesInv d) {fut : ℕ} (hnew : fut ∉ d.ops.map Prod.fst)
    (hidle : d.closeCb = false) : FuturesInv (nabtoDeviceClose d fut) := by
  have hledger := h.ledger
  have hnone : d.closing = none := by simp [DeviceFutures.closing, hidle]
  unfold nabtoDeviceClose ncDeviceClose
  dsimp only
  by_cases hstate : d.state = .running
  · simp only [hstate, ne_eq, not_true_eq_false, if_false]
    refine ⟨⟨hledger.pass hnew _, fun cb hcb => ?_, fun f hf => ?_, ?_⟩, fun r hr => ?_⟩
    · obtain ⟨f, hf, hmem⟩ := hledger.owned cb hcb
      exact ⟨f, hf, List.mem_append_left _ hmem⟩
    · obtain rfl : fut = f := Option.some.inj hf
      exact List.mem_append_right _ (List.mem_singleton_self _)
    · have hcounted := hledger.counted
      rw [hnone] at hcounted
      rw [List.map_append, ← Multiset.coe_add, ← hcounted]
      simp only [DeviceFutures.closing, if_true, Option.toList_some, Option.toList_none,
        List.map_nil, List.map_cons, Multiset.coe_nil, add_zero]
      exact add_right_comm _ _ _
    · obtain ⟨o, ho, hgives⟩ := h.own r hr
      exact ⟨o, List.mem_append_left _ ho, hgives⟩
  · simp only [hstate, ne_eq, not_false_eq_true, if_true]
    have hclosing : DeviceFutures.closing { d with closeFut := some fut } = d.closing := by
      simp [DeviceFutures.closing, hidle]
    have hset : FuturesInv { d with closeFut := some fut } := ⟨hclosing ▸ hledger, h.own⟩
    exact hset.resolveOwn hnew .invalidState

theorem FuturesInv.attachClosed (h : FuturesInv d) : FuturesInv (ncDeviceAttachClosedCb d) := by
  unfold ncDeviceAttachClosedCb nabtoDeviceCloseCb
  split_ifs with hcb
  · have hledger := h.ledger
    have hclosing : d.closing = d.closeFut := by simp [DeviceFutures.closing, hcb]
    rw [hclosing] at hledger
    cases hfut : d.closeFut with
    | none =>
      rw [hfut] at hledger
      exact ⟨hledger, h.own⟩
    | some fut =>
      rw [hfut] at hledger
      refine ⟨⟨hledger.distinct, hledger.owned, fun f hf => (by cases hf), ?_⟩, fun r hr => ?_⟩
      · rw [← hledger.counted]
        simp only [DeviceFutures.closing, StreamApi.resolve, Bool.false_eq_true, if_false,
          Option.toList_none, Option.toList_some, List.map_nil, List.map_cons, Multiset.coe_nil,
          add_zero, List.map_append]
        rw [← Multiset.coe_add, add_right_comm, add_assoc]
      · rcases List.mem_append.mp hr with hr | hr
        · exact h.own r hr
        · rw [List.mem_singleton.mp hr]
          exact ⟨.close, hledger.pendingClose fut rfl, rfl⟩
  · exact h

theorem deviceFuturesStep_inv {flags : NabtoStreamFlags} {d' : DeviceFutures}
    {e : DeviceFuturesEvent}
    (h : FuturesInv d) (hkeeps : losesFuture flags d e = false)
    (hs : deviceFuturesStep flags d e = some d') : FuturesInv d' := by
  obtain ⟨happ, hs⟩ := Option.ite_none_left_eq_some.mp hs
  cases e with
  | stream e =>
    cases e with
    | core e =>
      obtain ⟨api, hapi, rfl⟩ := Option.map_eq_some_iff.mp hs
      obtain ⟨hallow, hapi⟩ := Option.ite_none_right_eq_some.mp hapi
      obtain ⟨manager, hcore, rfl⟩ := Option.map_eq_some_iff.mp hapi
      have hasked : allAsked keepsCallbacks flags d.api.manager e = true := by
        simpa [losesFuture] using hkeeps
      exact h.core (settles_slotRule.managerStep (libraryAllows_asked hallow).1 hasked hcore)
    | call i call =>
      obtain ⟨str, hi, rfl⟩ := Option.map_eq_some_iff.mp hs
      obtain ⟨hi, -⟩ := Option.filter_eq_some_iff.mp hi
      refine h.call hi (fun fut hfut => ?_) hkeeps
      cases call with
      | free | abort => cases hfut
      | accept | readAll | readSome | write | close =>
        cases hfut
        simpa [applicationAllows, StreamCall.future] using happ
  | deviceStart =>
    cases hs
    exact ⟨h.ledger, h.own⟩
  | deviceClose fut =>
    cases hs
    exact h.deviceClose (by simpa [applicationAllows] using happ) hkeeps
  | deviceStop =>
    cases hs
    exact ⟨h.ledger, h.own⟩
  | attachClosed =>
    cases hs
    exact h.attachClosed

theorem futuresInv_init (flags : NabtoStreamFlags) (maxStreams : ℕ) :
    FuturesInv (deviceFutures flags maxStreams).init := by
  have hpend : pendingCallbacks (deviceFutures flags maxStreams).init.api.manager.slots = 0 := by
    refine Multiset.eq_zero_of_forall_notMem fun cb hcb => ?_
    obtain ⟨slot, hslot, hreg⟩ := mem_pendingCallbacks.mp hcb
    rw [List.eq_of_mem_replicate hslot] at hreg
    cases hreg
  refine ⟨⟨List.nodup_nil, fun cb hcb => ?_, fun fut hfut => (by cases hfut), ?_⟩,
    fun r hr => absurd hr List.not_mem_nil⟩
  · rw [hpend] at hcb
    exact absurd hcb (Multiset.notMem_zero cb)
  · rw [hpend]
    rfl

/-- In every run without a second close and without a stream destroyed under its callbacks,
all futures are resolved at most once, with their own results, and none is dropped. -/
theorem futures_settled (flags : NabtoStreamFlags) (maxStreams : ℕ)
    {evs : List DeviceFuturesEvent}
    (hkeeps : ∀ t e, (deviceFutures flags maxStreams).Takes evs t e →
      losesFuture flags t e = false) :
    ∀ t, (deviceFutures flags maxStreams).Visits evs t → FuturesSettled t := by
  intro t ht
  have hinv : FuturesInv t := ht.invariant_of_takes FuturesInv
    (fun t e => losesFuture flags t e = false) (futuresInv_init flags maxStreams)
    (fun _ _ _ hinv hk hs => deviceFuturesStep_inv hinv hk hs) hkeeps
  exact hinv.settled

def streamOpened : List DeviceFuturesEvent :=
  [.deviceStart, .stream (.core (.addListener 80 fun _ => 0)),
   .stream (.core (.packet 7 1 ⟨[5, 2, 2, 0], 0, true, true, [.accept 80 true]⟩))]

/-- The stream is accepted, read from twice at the same time and closed, then the device
is closed twice, one time after the other. -/
def closedOnceRun : List DeviceFuturesEvent :=
  streamOpened ++
    [.stream (.call 0 (.accept 100)),
     .stream (.core (.queue 0 [.applicationEvent .opened ⟨[], [], .ok⟩])),
     .stream (.call 0 (.readSome 101 16 [])), .stream (.call 0 (.readAll 102 16 [])),
     .stream (.core (.queue 0 [.applicationEvent .dataReady ⟨[⟨.ok, [1]⟩], [], .ok⟩])),
     .stream (.call 0 (.close 103 .ok)),
     .stream (.core (.queue 0 [.applicationEvent .writeClosed ⟨[], [], .ok⟩])),
     .deviceClose 104, .attachClosed, .deviceClose 105]

theorem futures_settled_closed_once :
    (∃ s, (deviceFutures ⟨2, 4⟩ 10).Run closedOnceRun s ∧
      s.api.resolved = [(100, .ok), (102, .operationInProgress), (101, .ok), (103, .ok), (104, .ok),
        (105, .invalidState)]) ∧
    ∀ t, (deviceFutures ⟨2, 4⟩ 10).Visits closedOnceRun t → FuturesSettled t := by
  refine ⟨⟨_, Machine.run_of_exec rfl, by decide +kernel⟩, ?_⟩
  refine futures_settled ⟨2, 4⟩ 10 fun t e ht => ?_
  have hall : (deviceFutures ⟨2, 4⟩ 10).allTaken (fun t e => !losesFuture ⟨2, 4⟩ t e)
      (deviceFutures ⟨2, 4⟩ 10).init closedOnceRun = true := by decide +kernel
  exact Machine.takes_eq_false_of_allTaken hall ht

/-- A second close of a stream, or of the device, is refused and its future resolved; when
the first close is done, that future is resolved again and the first one never is. -/
theorem second_close_drops_future :
    (∃ s, (deviceFutures ⟨2, 4⟩ 10).Run
        (streamOpened ++ [.stream (.call 0 (.close 103 .ok)), .stream (.call 0 (.close 104 .ok)),
          .stream (.core (.queue 0 [.applicationEvent .writeClosed ⟨[], [], .ok⟩]))]) s ∧
      s.api.resolved = [(104, .operationInProgress), (104, .ok)] ∧ ¬ FuturesSettled s) ∧
    ∃ s, (deviceFutures ⟨2, 4⟩ 10).Run
        [.deviceStart, .deviceClose 103, .deviceClose 104, .attachClosed] s ∧
      s.api.resolved = [(104, .invalidState), (104, .ok)] ∧ ¬ FuturesSettled s := by
  refine ⟨⟨_, Machine.run_of_exec rfl, by decide +kernel, fun h => ?_⟩,
    _, Machine.run_of_exec rfl, by decide +kernel, fun h => ?_⟩
  · exact absurd h.once (by decide +kernel)
  · exact absurd h.once (by decide +kernel)

end NabtoDevice
