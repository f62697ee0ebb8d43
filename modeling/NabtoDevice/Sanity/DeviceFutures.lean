import NabtoDevice.Spec.DeviceFutures
import NabtoDevice.Sanity.StreamManager
import Mathlib.Algebra.Order.Group.Multiset

/-! The bookkeeping behind the futures. `Ledger` says that every future passed is counted
once: for a callback that is registered with the core, for a close of the device that is
pending, or as resolved. The callbacks the core runs move futures from the first place
to the last, and nothing else in the ledger moves. -/

namespace NabtoDevice

def Settles (a b : NcStreamContext) : Prop :=
  ∃ new, b.calls = a.calls ++ new ∧
    (a.registered : Multiset NcStreamCallback) = (new.map Prod.fst : List NcStreamCallback) +
      b.registered

theorem Settles.refl (a : NcStreamContext) : Settles a a := ⟨[], by simp, by simp⟩

theorem Settles.trans {a b c : NcStreamContext} (hab : Settles a b) (hbc : Settles b c) :
    Settles a c := by
  obtain ⟨new, hcalls, hreg⟩ := hab
  obtain ⟨new', hcalls', hreg'⟩ := hbc
  refine ⟨new ++ new', ?_, ?_⟩
  · rw [hcalls', hcalls, List.append_assoc]
  · rw [hreg, hreg', List.map_append, ← Multiset.coe_add, add_assoc]

theorem Settles.of_same {a b : NcStreamContext} (hcalls : b.calls = a.calls)
    (hreg : b.registered = a.registered) : Settles a b := ⟨[], by simp [hcalls], by simp [hreg]⟩

theorem Resolves.settles {a b : NcStreamContext} (h : Resolves a b) : Settles a b := by
  obtain ⟨new, hnew⟩ := h.calls
  refine ⟨new, hnew.symm, ?_⟩
  have hknown := h.fires.known
  simp only [Oneshot.known, NcStreamContext.oneshot, ← hnew, List.map_append, ← Multiset.coe_add]
    at hknown
  rw [add_comm (a.calls.map Prod.fst : Multiset NcStreamCallback), ← add_assoc] at hknown
  rw [add_comm]
  exact (add_right_cancel hknown).symm

/-- The library does not release a stream while a callback of it is registered. -/
def keepsCallbacks (ctx : NcStreamContext) (next : NabtoStreamNextEvent) : Bool :=
  !(ctx.active && decide (next = .released) && !ctx.registered.isEmpty)

theorem event_settles (listeners : List ℕ) {ctx : NcStreamContext}
    {answers : List NabtoStreamNextEvent}
    (h : keepsCallbacks ctx (ncStreamNextEvent ctx answers) = true) :
    Settles ctx (ncStreamEvent listeners ctx answers) := by
  rcases ncStreamEvent_cases listeners ctx answers with
    ⟨contentType, kept, hnext, heq⟩ | ⟨hnext, heq⟩ | ⟨-, -, hres⟩
  · rw [heq, ncStreamManagerReadyForAccept]
    split_ifs <;> exact .of_same rfl rfl
  · rw [heq, ncStreamDestroy]
    split_ifs with hactive
    · exact .refl _
    · have hnone : ctx.registered = [] := by simpa [keepsCallbacks, hnext, hactive] using h
      exact .of_same (by simp [hnone]) rfl
  · exact hres.settles

theorem settles_slotRule : SlotRule Settles keepsCallbacks :=
  .of_event .refl (fun _ _ _ => Settles.trans) (fun _ _ _ _ _ => .of_same rfl rfl)
    (fun listeners _ _ h => event_settles listeners h)
    (fun _ => ⟨.of_same rfl rfl, rfl⟩) (fun _ => ⟨.of_same rfl rfl, rfl⟩)

def pendingCallbacks (slots : List StreamSlot) : Multiset NcStreamCallback :=
  (slots.flatMap fun slot => slot.stream.registered : List NcStreamCallback)

variable {slots : List StreamSlot} {cb : NcStreamCallback}

theorem mem_pendingCallbacks :
    cb ∈ pendingCallbacks slots ↔ ∃ slot ∈ slots, cb ∈ slot.stream.registered := by
  simp [pendingCallbacks]

theorem pendingCallbacks_cons (slot : StreamSlot) (slots : List StreamSlot) :
    pendingCallbacks (slot :: slots) = slot.stream.registered + pendingCallbacks slots := by
  simp [pendingCallbacks]

def callsBetween (a b : List StreamSlot) : List (NcStreamCallback × NpErrorCode) :=
  (a.zip b).flatMap fun slots => slots.2.stream.calls.drop slots.1.stream.calls.length

theorem pendingCallbacks_settled {a b : List StreamSlot}
    (h : List.Forall₂ (fun x y => Settles x.stream y.stream) a b) :
    pendingCallbacks a =
      ((callsBetween a b).map Prod.fst : List NcStreamCallback) + pendingCallbacks b := by
  induction h with
  | nil => rfl
  | @cons x y a b hxy _ ih =>
    obtain ⟨new, hcalls, hreg⟩ := hxy
    have hdrop : y.stream.calls.drop x.stream.calls.length = new := by rw [hcalls, List.drop_left]
    have hcons : callsBetween (x :: a) (y :: b) = new ++ callsBetween a b := by
      simp [callsBetween, hdrop]
    rw [pendingCallbacks_cons, pendingCallbacks_cons, hcons, List.map_append, ← Multiset.coe_add,
      hreg, ih]
    exact add_add_add_comm _ _ _ _

theorem pendingCallbacks_modify {i : ℕ} {slot : StreamSlot} (hi : slots[i]? = some slot)
    (f : StreamSlot → StreamSlot) :
    pendingCallbacks (slots.modify i f) + slot.stream.registered =
      pendingCallbacks slots + (f slot).stream.registered := by
  induction slots generalizing i with
  | nil => cases hi
  | cons x slots ih =>
    cases i with
    | zero =>
      obtain rfl := Option.some.inj hi
      rw [List.modify_zero_cons, pendingCallbacks_cons, pendingCallbacks_cons]
      rw [add_right_comm, add_comm ((f x).stream.registered : Multiset NcStreamCallback)]
      exact add_right_comm _ _ _
    | succ i =>
      rw [List.modify_succ_cons, pendingCallbacks_cons, pendingCallbacks_cons, add_assoc, ih hi,
        add_assoc]

theorem callsBetween_self (slots : List StreamSlot) : callsBetween slots slots = [] := by
  induction slots with
  | nil => rfl
  | cons x slots ih => simpa [callsBetween] using ih

theorem callsBetween_modify {i : ℕ} {slot : StreamSlot} (hi : slots[i]? = some slot)
    (f : StreamSlot → StreamSlot) :
    callsBetween slots (slots.modify i f) =
      (f slot).stream.calls.drop slot.stream.calls.length := by
  induction slots generalizing i with
  | nil => cases hi
  | cons x slots ih =>
    cases i with
    | zero =>
      cases hi
      have hrest := callsBetween_self slots
      simp only [callsBetween] at hrest
      simp [callsBetween, hrest]
    | succ i =>
      have hrest := ih hi
      simp only [callsBetween] at hrest
      simp [callsBetween, hrest]

/-- A call the core made is in the log of a slot. -/
theorem exists_of_mem_callsBetween {a b : List StreamSlot} {call : NcStreamCallback × NpErrorCode}
    (h : call ∈ callsBetween a b) : ∃ slot ∈ b, call ∈ slot.stream.calls := by
  obtain ⟨⟨x, y⟩, hxy, hmem⟩ := List.mem_flatMap.mp h
  exact ⟨y, (List.of_mem_zip hxy).2, List.mem_of_mem_drop hmem⟩

def NabtoDeviceStream.future (str : NabtoDeviceStream) : StreamCallbackKind → Option ℕ
  | .accept => str.acceptFut
  | .read => str.readFut
  | .write => str.writeFut
  | .close => str.closeFut

def NabtoDeviceStream.withFuture (kind : StreamCallbackKind) (fut : ℕ) (str : NabtoDeviceStream) :
    NabtoDeviceStream :=
  match kind with
  | .accept => { str with acceptFut := some fut }
  | .read => { str with readFut := some fut }
  | .write => { str with writeFut := some fut }
  | .close => { str with closeFut := some fut }

theorem NabtoDeviceStream.future_withFuture (kind k : StreamCallbackKind) (fut : ℕ)
    (str : NabtoDeviceStream) :
    (str.withFuture kind fut).future k = if k = kind then some fut else str.future k := by
  cases kind <;> cases k <;> rfl

def futureOf (handles : List NabtoDeviceStream) (cb : NcStreamCallback) : Option ℕ :=
  handles[cb.userData]?.bind fun str => str.future cb.kind

/-- Two callbacks that resolve the same field of the same handle. -/
def NcStreamCallback.Same (cb cb' : NcStreamCallback) : Prop :=
  cb'.userData = cb.userData ∧ cb'.kind = cb.kind

variable {handles : List NabtoDeviceStream}

theorem futureOf_same {cb' : NcStreamCallback} (h : cb.Same cb') :
    futureOf handles cb' = futureOf handles cb := by
  rw [futureOf, futureOf, h.1, h.2]

theorem futureOf_modify {h : ℕ} {f : NabtoDeviceStream → NabtoDeviceStream}
    (hf : cb.userData = h → ∀ str, (f str).future cb.kind = str.future cb.kind) :
    futureOf (handles.modify h f) cb = futureOf handles cb := by
  rw [futureOf, futureOf, List.getElem?_modify]
  cases handles[cb.userData]? with
  | none => rfl
  | some str =>
    by_cases hh : h = cb.userData
    · simpa [hh] using hf hh.symm str
    · simp [hh]

variable {fut : ℕ}

theorem futureOf_append (h : futureOf handles cb = some fut) (new : List NabtoDeviceStream) :
    futureOf (handles ++ new) cb = some fut := by
  obtain ⟨str, hstr, hfut⟩ := Option.bind_eq_some_iff.mp h
  have hlt := (List.getElem?_eq_some_iff.mp hstr).1
  rw [futureOf, List.getElem?_append_left hlt, hstr]
  exact hfut

/-- A callback resolves its future and leaves the fields of the other callbacks alone. -/
theorem callback_spec (api : StreamApi) (ec : NpErrorCode)
    (h : futureOf api.handles cb = some fut) :
    (api.callback (cb, ec)).resolved = api.resolved ++ [(fut, ec)] ∧
    ∀ cb', ¬ cb.Same cb' →
      futureOf (api.callback (cb, ec)).handles cb' = futureOf api.handles cb' := by
  obtain ⟨str, hstr, hfut⟩ := Option.bind_eq_some_iff.mp h
  have hread (cb' : NcStreamCallback) (hne : cb'.userData = cb.userData → cb'.kind ≠ .read) :
      futureOf (api.handles.modify cb.userData fun str => { str with readFut := none }) cb' =
        futureOf api.handles cb' := by
    refine futureOf_modify fun hu str => ?_
    cases hk : cb'.kind with
    | read => exact absurd hk (hne hu)
    | accept | write | close => rfl
  have hwrite (cb' : NcStreamCallback) (hne : cb'.userData = cb.userData → cb'.kind ≠ .write) :
      futureOf (api.handles.modify cb.userData fun str => { str with writeFut := none }) cb' =
        futureOf api.handles cb' := by
    refine futureOf_modify fun hu str => ?_
    cases hk : cb'.kind with
    | write => exact absurd hk (hne hu)
    | accept | read | close => rfl
  unfold StreamApi.callback
  simp only [hstr]
  cases hk : cb.kind with
  | accept | close =>
    rw [hk] at hfut
    simp only [NabtoDeviceStream.future] at hfut
    simp [StreamApi.resolve, hfut]
  | read =>
    rw [hk] at hfut
    simp only [NabtoDeviceStream.future] at hfut
    simp only [StreamApi.resolve, hfut, StreamApi.modifyHandle, true_and]
    exact fun cb' hne => hread cb' fun hu hk' => hne ⟨hu, hk'.trans hk.symm⟩
  | write =>
    rw [hk] at hfut
    simp only [NabtoDeviceStream.future] at hfut
    simp only [StreamApi.resolve, hfut, StreamApi.modifyHandle, true_and]
    exact fun cb' hne => hwrite cb' fun hu hk' => hne ⟨hu, hk'.trans hk.symm⟩

/-- Every future that was passed is counted once. -/
structure Ledger (handles : List NabtoDeviceStream) (pend : Multiset NcStreamCallback)
    (closing : Option ℕ) (resolved : List (ℕ × NpErrorCode)) (ops : List (ℕ × FutureOp)) :
    Prop where
  distinct : (ops.map Prod.fst).Nodup
  owned : ∀ cb ∈ pend, ∃ fut, futureOf handles cb = some fut ∧ (fut, .stream cb) ∈ ops
  pendingClose : ∀ fut ∈ closing, (fut, .close) ∈ ops
  counted : pend.map (futureOf handles) + (closing.toList.map some : List (Option ℕ)) +
      (resolved.map fun r => some r.1 : List (Option ℕ)) =
    (ops.map fun o => some o.1 : List (Option ℕ))

section

variable {handles : List NabtoDeviceStream} {pend : Multiset NcStreamCallback} {closing : Option ℕ}
  {resolved : List (ℕ × NpErrorCode)} {ops : List (ℕ × FutureOp)}

theorem Ledger.counted_nodup (h : Ledger handles pend closing resolved ops) :
    (pend.map (futureOf handles) + (closing.toList.map some : List (Option ℕ)) +
      (resolved.map fun r => some r.1 : List (Option ℕ))).Nodup := by
  rw [h.counted, Multiset.coe_nodup]
  have := h.distinct.map (Option.some_injective ℕ)
  rwa [List.map_map] at this

/-- No two registered callbacks resolve the same field. -/
theorem Ledger.not_same {cb' : NcStreamCallback}
    (h : Ledger handles (cb ::ₘ pend) closing resolved ops)
    (hmem : cb' ∈ pend) : ¬ cb.Same cb' := by
  intro hsame
  have hnodup := h.counted_nodup
  rw [Multiset.map_cons, Multiset.cons_add, Multiset.cons_add] at hnodup
  have hnot := (Multiset.nodup_cons.mp hnodup).1
  refine hnot (Multiset.mem_add.mpr (.inl (Multiset.mem_add.mpr (.inl ?_))))
  exact Multiset.mem_map.mpr ⟨cb', hmem, futureOf_same hsame⟩

theorem Ledger.fire {handles' : List NabtoDeviceStream}
    (h : Ledger handles (cb ::ₘ pend) closing resolved ops) (hfut : futureOf handles cb = some fut)
    (hkeep : ∀ cb', ¬ cb.Same cb' → futureOf handles' cb' = futureOf handles cb')
    (ec : NpErrorCode) : Ledger handles' pend closing (resolved ++ [(fut, ec)]) ops := by
  have hrest : pend.map (futureOf handles') = pend.map (futureOf handles) :=
    Multiset.map_congr rfl fun cb' hmem => hkeep cb' (h.not_same hmem)
  refine ⟨h.distinct, fun cb' hmem => ?_, h.pendingClose, ?_⟩
  · rw [hkeep cb' (h.not_same hmem)]
    exact h.owned cb' (Multiset.mem_cons_of_mem hmem)
  · rw [hrest, ← h.counted, Multiset.map_cons, hfut, List.map_append, ← Multiset.coe_add]
    simp only [List.map_cons, List.map_nil, ← Multiset.singleton_add, Multiset.coe_singleton]
    rw [add_assoc, add_assoc, add_assoc, add_comm {some fut}]
    simp only [add_assoc]

/-- The core runs callbacks: their futures are resolved with the results of the calls. -/
theorem Ledger.callbacks (calls : List (NcStreamCallback × NpErrorCode)) (api : StreamApi)
    (h : Ledger api.handles ((calls.map Prod.fst : List NcStreamCallback) + pend) closing
      api.resolved ops) :
    Ledger (calls.foldl StreamApi.callback api).handles pend closing
      (calls.foldl StreamApi.callback api).resolved ops ∧
    ∀ r ∈ (calls.foldl StreamApi.callback api).resolved, r ∈ api.resolved ∨
      ∃ cb, (r.1, .stream cb) ∈ ops ∧ (cb, r.2) ∈ calls := by
  induction calls generalizing api with
  | nil =>
    rw [List.map_nil, Multiset.coe_nil, zero_add] at h
    exact ⟨h, fun r hr => .inl hr⟩
  | cons call calls ih =>
    obtain ⟨cb, ec⟩ := call
    rw [List.map_cons, ← Multiset.cons_coe, Multiset.cons_add] at h
    obtain ⟨fut, hfut, hown⟩ := h.owned cb (Multiset.mem_cons_self _ _)
    obtain ⟨hres, hkeep⟩ := callback_spec api ec hfut
    have hnext := h.fire hfut hkeep ec
    rw [← hres] at hnext
    obtain ⟨hledger, hnew⟩ := ih (api.callback (cb, ec)) hnext
    refine ⟨hledger, fun r hr => ?_⟩
    rcases hnew r hr with hr | ⟨cb', hops, hmem⟩
    · rw [hres, List.mem_append, List.mem_singleton] at hr
      rcases hr with hr | rfl
      · exact .inl hr
      · exact .inr ⟨cb, hown, List.mem_cons_self⟩
    · exact .inr ⟨cb', hops, List.mem_cons_of_mem _ hmem⟩

theorem Ledger.of_handles (h : Ledger handles pend closing resolved ops)
    (handles' : List NabtoDeviceStream)
    (hkeep : ∀ cb ∈ pend, futureOf handles' cb = futureOf handles cb) :
    Ledger handles' pend closing resolved ops := by
  refine ⟨h.distinct, fun cb hcb => ?_, h.pendingClose, ?_⟩
  · rw [hkeep cb hcb]
    exact h.owned cb hcb
  · rw [Multiset.map_congr rfl hkeep]
    exact h.counted

theorem Ledger.append_handles (h : Ledger handles pend closing resolved ops)
    (new : List NabtoDeviceStream) : Ledger (handles ++ new) pend closing resolved ops := by
  refine h.of_handles _ fun cb hcb => ?_
  obtain ⟨fut, hfut, -⟩ := h.owned cb hcb
  rw [futureOf_append hfut, hfut]

theorem Ledger.pass (h : Ledger handles pend closing resolved ops) (hnew : fut ∉ ops.map Prod.fst)
    (op : FutureOp) : ((ops ++ [(fut, op)]).map Prod.fst).Nodup := by
  rw [List.map_append]
  exact List.nodup_append.mpr ⟨h.distinct, List.nodup_singleton _,
    fun a ha b hb => by rw [List.mem_singleton.mp hb]; exact ne_of_mem_of_not_mem ha hnew⟩

/-- A call is refused and its future resolved at once. -/
theorem Ledger.refuse (h : Ledger handles pend closing resolved ops) (hnew : fut ∉ ops.map Prod.fst)
    (ec : NpErrorCode) :
    Ledger handles pend closing (resolved ++ [(fut, ec)]) (ops ++ [(fut, .refused ec)]) := by
  refine ⟨h.pass hnew _, fun cb hcb => ?_,
    fun f hf => List.mem_append_left _ (h.pendingClose f hf), ?_⟩
  · obtain ⟨f, hf, hmem⟩ := h.owned cb hcb
    exact ⟨f, hf, List.mem_append_left _ hmem⟩
  · rw [List.map_append, List.map_append, ← Multiset.coe_add, ← Multiset.coe_add, ← add_assoc,
      h.counted]
    rfl

/-- An operation is started: its callback is registered, and its handle has the future. -/
theorem Ledger.register {handles' : List NabtoDeviceStream}
    (h : Ledger handles pend closing resolved ops)
    (hnew : fut ∉ ops.map Prod.fst) (hfut : futureOf handles' cb = some fut)
    (hkeep : ∀ cb' ∈ pend, futureOf handles' cb' = futureOf handles cb') :
    Ledger handles' (cb ::ₘ pend) closing resolved (ops ++ [(fut, .stream cb)]) := by
  refine ⟨h.pass hnew _, fun cb' hcb' => ?_,
    fun f hf => List.mem_append_left _ (h.pendingClose f hf), ?_⟩
  · rcases Multiset.mem_cons.mp hcb' with rfl | hcb'
    · exact ⟨fut, hfut, List.mem_append_right _ (List.mem_singleton_self _)⟩
    · obtain ⟨f, hf, hmem⟩ := h.owned cb' hcb'
      exact ⟨f, (hkeep cb' hcb').trans hf, List.mem_append_left _ hmem⟩
  · rw [Multiset.map_cons, hfut, Multiset.map_congr rfl hkeep, Multiset.cons_add, Multiset.cons_add,
      h.counted, List.map_append, ← Multiset.coe_add, add_comm]
    rfl

end

end NabtoDevice
