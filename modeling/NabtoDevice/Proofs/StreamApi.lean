import NabtoDevice.Sanity.StreamApi

/-! `nabto_device_stream_abort` and `nabto_device_stream_free` both release the stream,
and the first release already lets the core destroy it and give its slot to the next
stream. A handle that was not aborted always finds its own stream; an aborted one may
find its successor, and the handles act on their own streams exactly if no call is
made through an aborted handle once the slot has been given away. -/

namespace NabtoDevice

structure Owner where
  slot : ℕ
  incarnation : ℕ
  aborted : Bool
  freed : Bool
  deriving DecidableEq, Repr

def NabtoDeviceStream.owner (str : NabtoDeviceStream) : Owner :=
  ⟨str.slot, str.incarnation, str.aborted, str.freed⟩

def StreamApi.owners (api : StreamApi) : List Owner := api.handles.map NabtoDeviceStream.owner

def Owner.key (o : Owner) : ℕ × ℕ := (o.slot, o.incarnation)

/-- The handles are for different streams that were handed over, and those neither
aborted nor freed hold them still. -/
structure Owned (slots : List StreamSlot) (owners : List Owner) : Prop where
  valid : ∀ (i : ℕ) (slot : StreamSlot), slots[i]? = some slot → slot.stream.life.Valid
  handed : ∀ o ∈ owners, ∃ slot, slots[o.slot]? = some slot ∧ o.incarnation ∈ slot.stream.handedOver
  distinct : (owners.map Owner.key).Nodup
  live : ∀ o ∈ owners, o.aborted = false → o.freed = false →
    ∀ slot, slots[o.slot]? = some slot → slot.stream.life.Holds o.incarnation

variable {a b : NcStreamManager} {o : Owner}

theorem mem_newHandles (hab : CarriesAll a b)
    (h : o ∈ (StreamApi.newHandles a b).map NabtoDeviceStream.owner) :
    ∃ x y new, a.slots[o.slot]? = some x ∧ b.slots[o.slot]? = some y ∧
      y.stream.handedOver = x.stream.handedOver ++ new ∧ o.incarnation ∈ new ∧
      o.aborted = false ∧ o.freed = false := by
  obtain ⟨str, hstr, rfl⟩ := List.mem_map.mp h
  obtain ⟨i, -, hstr⟩ := List.mem_flatMap.mp hstr
  unfold StreamApi.newHandlesAt at hstr
  split at hstr
  · rename_i x y hx hy
    obtain ⟨new, hnew, -⟩ := (hab.slots i x y hx hy).handed
    have hnew' : y.stream.handedOver = x.stream.handedOver ++ new := hnew
    rw [hnew', List.drop_left] at hstr
    obtain ⟨k, hk, rfl⟩ := List.mem_map.mp hstr
    exact ⟨x, y, new, hx, hy, hnew', hk, rfl, rfl⟩
  · cases hstr

theorem newHandles_distinct
    (hvalid : ∀ (i : ℕ) (slot : StreamSlot), b.slots[i]? = some slot → slot.stream.life.Valid) :
    (((StreamApi.newHandles a b).map NabtoDeviceStream.owner).map Owner.key).Nodup := by
  rw [List.map_map, StreamApi.newHandles, List.map_flatMap, List.nodup_flatMap]
  constructor
  · intro i _
    unfold StreamApi.newHandlesAt
    split
    · rename_i x y hx hy
      have hnodup : y.stream.handedOver.Nodup := (hvalid i y hy).nodup
      rw [List.map_map]
      refine (hnodup.sublist (List.drop_sublist _ _)).map fun k l hkl => ?_
      exact (Prod.mk.inj hkl).2
    · exact List.nodup_nil
  · -- handles made at different slots differ there
    refine List.nodup_range.pairwise_of_forall_ne fun i _ j _ hij => ?_
    have hslot (i : ℕ) (key : ℕ × ℕ) (h : key ∈ (StreamApi.newHandlesAt a b i).map
        (Owner.key ∘ NabtoDeviceStream.owner)) : key.1 = i := by
      unfold StreamApi.newHandlesAt at h
      split at h
      · rw [List.map_map] at h
        obtain ⟨k, -, rfl⟩ := List.mem_map.mp h
        rfl
      · cases h
    intro key hi hj
    exact hij ((hslot i key hi).symm.trans (hslot j key hj))

variable {owners : List Owner}

theorem Owned.carries (h : Owned a.slots owners) (hab : CarriesAll a b) :
    Owned b.slots (owners ++ (StreamApi.newHandles a b).map NabtoDeviceStream.owner) := by
  -- every slot of `b` has its predecessor in `a`, and the other way round
  have hback (i : ℕ) (y : StreamSlot) (hy : b.slots[i]? = some y) : ∃ x, a.slots[i]? = some x := by
    have := (List.getElem?_eq_some_iff.mp hy).1
    exact ⟨_, List.getElem?_eq_getElem (by rw [hab.length] at this; exact this)⟩
  have hforth (i : ℕ) (x : StreamSlot) (hx : a.slots[i]? = some x) : ∃ y, b.slots[i]? = some y := by
    have := (List.getElem?_eq_some_iff.mp hx).1
    exact ⟨_, List.getElem?_eq_getElem (by rw [hab.length]; exact this)⟩
  have hvalid (i : ℕ) (y : StreamSlot) (hy : b.slots[i]? = some y) : y.stream.life.Valid := by
    obtain ⟨x, hx⟩ := hback i y hy
    exact (hab.slots i x y hx hy).valid (h.valid i x hx)
  refine ⟨hvalid, fun o ho => ?_, ?_, fun o ho hab' hfr y hy => ?_⟩
  · rcases List.mem_append.mp ho with ho | ho
    · obtain ⟨x, hx, hmem⟩ := h.handed o ho
      obtain ⟨y, hy⟩ := hforth _ x hx
      obtain ⟨new, hnew, -⟩ := (hab.slots _ x y hx hy).handed
      have hnew' : y.stream.handedOver = x.stream.handedOver ++ new := hnew
      exact ⟨y, hy, hnew' ▸ List.mem_append_left _ hmem⟩
    · obtain ⟨x, y, new, -, hy, hnew, hmem, -, -⟩ := mem_newHandles hab ho
      exact ⟨y, hy, hnew ▸ List.mem_append_right _ hmem⟩
  · rw [List.map_append, List.nodup_append]
    refine ⟨h.distinct, newHandles_distinct hvalid, ?_⟩
    rintro _ hold _ hnew rfl
    obtain ⟨o, ho, hkey⟩ := List.mem_map.mp hold
    obtain ⟨o', ho', hkey'⟩ := List.mem_map.mp hnew
    obtain ⟨hslot, hinc⟩ := Prod.mk.inj (hkey.trans hkey'.symm)
    obtain ⟨x, hx, hmem⟩ := h.handed o ho
    obtain ⟨x', y, new, hx', hy, hover, hmem', -, -⟩ := mem_newHandles hab ho'
    rw [hslot] at hx
    obtain rfl : x = x' := Option.some.inj (hx.symm.trans hx')
    have hnodup : y.stream.handedOver.Nodup := (hvalid _ y hy).nodup
    rw [hover] at hnodup
    exact (List.nodup_append.mp hnodup).2.2 _ hmem _ hmem' hinc
  · obtain ⟨x, hx⟩ := hback _ y hy
    have hcarries := hab.slots _ x y hx hy
    rcases List.mem_append.mp ho with ho | ho
    · obtain ⟨x', hx', hmem⟩ := h.handed o ho
      obtain rfl : x = x' := Option.some.inj (hx.symm.trans hx')
      exact hcarries.holds (h.valid _ x hx) _ hmem (h.live o ho hab' hfr x hx)
    · obtain ⟨x', y', new, hx', hy', hover, hmem, -, -⟩ := mem_newHandles hab ho
      obtain rfl : x = x' := Option.some.inj (hx.symm.trans hx')
      obtain rfl : y = y' := Option.some.inj (hy.symm.trans hy')
      obtain ⟨new', hnew, hholds⟩ := hcarries.handed
      have : new = new' := List.append_cancel_left (hover.symm.trans hnew)
      exact hholds (h.valid _ x hx) _ (this ▸ hmem)

theorem Owned.unique {slots : List StreamSlot} (h : Owned slots owners) {i j : ℕ} {o' : Owner}
    (hi : owners[i]? = some o) (hj : owners[j]? = some o') (hkey : o.key = o'.key) : i = j := by
  have hkeys : (owners.map Owner.key)[i]? = (owners.map Owner.key)[j]? := by
    rw [List.getElem?_map, List.getElem?_map, hi, hj]
    exact congrArg some hkey
  have hlt : i < (owners.map Owner.key).length := by
    rw [List.length_map]
    exact (List.getElem?_eq_some_iff.mp hi).1
  exact (List.getElem?_inj hlt h.distinct).mp hkeys

theorem map_key_modify (owners : List Owner) (j : ℕ) {done : Owner → Owner}
    (hkey : ∀ o, (done o).key = o.key) :
    (owners.modify j done).map Owner.key = owners.map Owner.key := by
  apply List.ext_getElem?
  intro i
  rw [List.getElem?_map, List.getElem?_modify, List.getElem?_map]
  split_ifs
  · simp [Option.map_map, Function.comp_def, hkey]
  · simp

variable {slot : StreamSlot}

/-- A handle releases the stream it is for, or an empty slot, and is done with it. -/
theorem Owned.release {slots : List StreamSlot} (h : Owned slots owners) {j : ℕ}
    {done : Owner → Owner} (ho : owners[j]? = some o) (hslot : slots[o.slot]? = some slot)
    (hown : slot.stream.active = true → slot.stream.incarnation = o.incarnation)
    (hkey : ∀ o, (done o).key = o.key) (hdone : (done o).aborted = true ∨ (done o).freed = true) :
    Owned (slots.modify o.slot fun slot => { slot with stream := ncStreamRelease slot.stream })
      (owners.modify j done) := by
  have hslots := getElem?_modify_of_some hslot fun slot =>
    { slot with stream := ncStreamRelease slot.stream }
  have hkeys := map_key_modify owners j hkey
  refine ⟨fun i y hy => ?_, fun o' ho' => ?_, hkeys ▸ h.distinct, fun o' ho' hab hfr y hy => ?_⟩
  · rw [hslots i] at hy
    split_ifs at hy with hi
    · obtain rfl := Option.some.inj hy
      have hv := h.valid o.slot slot hslot
      refine ⟨hv.nodup, hv.past, hv.present, fun hactive hoffered => ?_⟩
      -- an active stream with a handle was offered
      obtain ⟨x, hx, hin⟩ := h.handed o (List.mem_of_getElem? ho)
      obtain rfl : slot = x := Option.some.inj (hslot.symm.trans hx)
      rw [← hown hactive] at hin
      exact absurd (hoffered.symm.trans (hv.present hin).2) nofun
    · exact h.valid i y hy
  · have hmem : o'.key ∈ owners.map Owner.key := hkeys ▸ List.mem_map_of_mem ho'
    obtain ⟨o₀, ho₀, hk⟩ := List.mem_map.mp hmem
    obtain ⟨hs, hinc⟩ := Prod.mk.inj hk
    obtain ⟨x, hx, hin⟩ := h.handed o₀ ho₀
    rw [hs] at hx
    rw [hinc] at hin
    rw [hslots o'.slot]
    split_ifs with hi
    · rw [← hi, hslot] at hx
      obtain rfl := Option.some.inj hx
      exact ⟨_, rfl, hin⟩
    · exact ⟨x, hx, hin⟩
  · obtain ⟨i, hi⟩ := List.mem_iff_getElem?.mp ho'
    rw [List.getElem?_modify] at hi
    by_cases hji : j = i
    · -- the handle itself is no longer live
      subst hji
      rw [ho] at hi
      simp only [if_true, Option.map_eq_map, Option.map_some, Option.some.injEq] at hi
      subst hi
      rcases hdone with hd | hd
      · exact absurd (hd.symm.trans hab) nofun
      · exact absurd (hd.symm.trans hfr) nofun
    · simp only [if_neg hji, Option.map_eq_map, Option.map_id'] at hi
      have hlive := h.live o' (List.mem_of_getElem? hi) hab hfr
      rw [hslots o'.slot] at hy
      split_ifs at hy with hsame
      · -- no other handle is for the released stream
        have hold := hlive slot (hsame ▸ hslot)
        have hinc := (hown hold.active).symm.trans hold.incarnation
        exact absurd (h.unique ho hi (Prod.ext hsame hinc)) hji
      · exact hlive y hy

structure SameCore (a b : StreamApi) : Prop where
  manager : b.manager = a.manager
  owners : b.owners = a.owners
  touches : b.touches = a.touches

theorem SameCore.trans {a b c : StreamApi} (hab : SameCore a b) (hbc : SameCore b c) :
    SameCore a c :=
  ⟨hbc.manager.trans hab.manager, hbc.owners.trans hab.owners, hbc.touches.trans hab.touches⟩

variable (api : StreamApi)

theorem resolve_same (fut : Option ℕ) (ec : NpErrorCode) : SameCore api (api.resolve fut ec) := by
  cases fut <;> exact ⟨rfl, rfl, rfl⟩

variable (h : ℕ)

theorem owners_modifyHandle {f : NabtoDeviceStream → NabtoDeviceStream} {g : Owner → Owner}
    (hfg : ∀ str, (f str).owner = g str.owner) :
    (api.modifyHandle h f).owners = api.owners.modify h g := by
  apply List.ext_getElem?
  intro i
  simp only [StreamApi.owners, StreamApi.modifyHandle, List.getElem?_map, List.getElem?_modify]
  split_ifs
  · simp [Option.map_map, Function.comp_def, hfg]
  · simp

theorem modifyHandle_same {f : NabtoDeviceStream → NabtoDeviceStream}
    (hf : ∀ str, (f str).owner = str.owner) : SameCore api (api.modifyHandle h f) := by
  refine ⟨rfl, ?_, rfl⟩
  rw [owners_modifyHandle (g := fun o => o) api h hf]
  exact List.modify_id h _

theorem callback_same (call : NcStreamCallback × NpErrorCode) :
    SameCore api (api.callback call) := by
  unfold StreamApi.callback
  split
  · exact ⟨rfl, rfl, rfl⟩
  · split
    · exact resolve_same api _ _
    · exact (resolve_same api _ _).trans (modifyHandle_same _ _ fun _ => rfl)
    · exact (resolve_same api _ _).trans (modifyHandle_same _ _ fun _ => rfl)
    · exact resolve_same api _ _

theorem callbacks_same (calls : List (NcStreamCallback × NpErrorCode)) (api : StreamApi) :
    SameCore api (calls.foldl StreamApi.callback api) := by
  induction calls generalizing api with
  | nil => exact ⟨rfl, rfl, rfl⟩
  | cons call calls ih => exact (callback_same api call).trans (ih _)

theorem runCore_same (manager : NcStreamManager) :
    SameCore { api with
      manager := manager, handles := api.handles ++ StreamApi.newHandles api.manager manager }
      (api.runCore manager) :=
  callbacks_same _ _

theorem runCore_owned (h : Owned api.manager.slots api.owners) {manager : NcStreamManager}
    (hab : CarriesAll api.manager manager) :
    Owned (api.runCore manager).manager.slots (api.runCore manager).owners := by
  have hsame := runCore_same api manager
  rw [hsame.manager, hsame.owners]
  have hcarried := h.carries hab
  rw [StreamApi.owners, ← List.map_append] at hcarried
  exact hcarried

def callsCore (str : NabtoDeviceStream) : StreamCall → Bool
  | .accept _ => str.acceptFut.isNone
  | .readAll _ _ _ | .readSome _ _ _ => str.readFut.isNone
  | .write _ _ _ => str.writeFut.isNone
  | .close _ _ | .abort | .free => true

/-- A call through an aborted handle reaches a later stream of its slot. -/
def strayCall (api : StreamApi) : StreamApiEvent → Bool
  | .core _ => false
  | .call h call => api.handles[h]?.any fun str =>
      str.aborted && callsCore str call && api.manager.slots[str.slot]?.any fun slot =>
        slot.stream.active && slot.stream.incarnation != str.incarnation

/-- Every core operation done through a handle found the stream the handle is for, or
no stream at all. -/
def TouchesOwn (api : StreamApi) : Prop :=
  ∀ t ∈ api.touches, t.slotActive = true → t.slotIncarnation = t.incarnation

def StreamCall.done : StreamCall → Owner → Owner
  | .abort, o => { o with aborted := true }
  | .free, o => { o with freed := true }
  | _, o => o

variable {str : NabtoDeviceStream} {call : StreamCall}

theorem streamCall_quiet (hcall : callsCore str call = false) :
    SameCore api (streamCall api h str call) := by
  cases call with
  | accept fut =>
    simp only [callsCore, Option.isNone_eq_false_iff] at hcall
    simpa only [streamCall, nabtoDeviceStreamAccept, hcall, if_true] using resolve_same api _ _
  | readAll fut bufferLength answers =>
    simp only [callsCore, Option.isNone_eq_false_iff] at hcall
    simpa only [streamCall, nabtoDeviceStreamReadAll, hcall, if_true] using resolve_same api _ _
  | readSome fut bufferLength answers =>
    simp only [callsCore, Option.isNone_eq_false_iff] at hcall
    simpa only [streamCall, nabtoDeviceStreamReadSome, hcall, if_true] using resolve_same api _ _
  | write fut buffer answers =>
    simp only [callsCore, Option.isNone_eq_false_iff] at hcall
    simpa only [streamCall, nabtoDeviceStreamWrite, hcall, if_true] using resolve_same api _ _
  | close | abort | free => cases hcall

/-- A call that reaches the core is one core operation, apart from the futures. -/
theorem streamCall_core (hcall : callsCore str call = true) :
    ∃ f op, (∀ str, (f str).owner = call.done str.owner) ∧
      (op = .release ∧ (call = .abort ∨ call = .free) ∨ op ≠ .release ∧ call.done = id) ∧
      SameCore ((api.modifyHandle h f).coreOp str op).2 (streamCall api h str call) := by
  cases call with
  | accept fut =>
    refine ⟨fun str => { str with acceptFut := some fut }, .asyncAccept h, fun _ => rfl,
      .inr ⟨by simp, rfl⟩, ?_⟩
    simp only [callsCore, Option.isNone_iff_eq_none] at hcall
    simp only [streamCall, nabtoDeviceStreamAccept, hcall, Option.isSome_none, Bool.false_eq_true,
      if_false]
    split_ifs
    · exact ⟨rfl, rfl, rfl⟩
    · exact resolve_same _ _ _
  | readAll fut bufferLength answers =>
    refine ⟨fun str => { str with readFut := some fut }, .asyncReadAll h bufferLength answers,
      fun _ => rfl, .inr ⟨by simp, rfl⟩, ?_⟩
    simp only [callsCore, Option.isNone_iff_eq_none] at hcall
    simp only [streamCall, nabtoDeviceStreamReadAll, hcall, Option.isSome_none, Bool.false_eq_true,
      if_false]
    split_ifs
    · exact ⟨rfl, rfl, rfl⟩
    · exact (resolve_same _ _ _).trans (modifyHandle_same _ _ fun _ => rfl)
  | readSome fut bufferLength answers =>
    refine ⟨fun str => { str with readFut := some fut }, .asyncReadSome h bufferLength answers,
      fun _ => rfl, .inr ⟨by simp, rfl⟩, ?_⟩
    simp only [callsCore, Option.isNone_iff_eq_none] at hcall
    simp only [streamCall, nabtoDeviceStreamReadSome, hcall, Option.isSome_none, Bool.false_eq_true,
      if_false]
    split_ifs
    · exact ⟨rfl, rfl, rfl⟩
    · exact resolve_same _ _ _
  | write fut buffer answers =>
    refine ⟨fun str => { str with writeFut := some fut }, .asyncWrite h buffer answers,
      fun _ => rfl, .inr ⟨by simp, rfl⟩, ?_⟩
    simp only [callsCore, Option.isNone_iff_eq_none] at hcall
    simp only [streamCall, nabtoDeviceStreamWrite, hcall, Option.isSome_none, Bool.false_eq_true,
      if_false]
    split_ifs
    · exact ⟨rfl, rfl, rfl⟩
    · exact resolve_same _ _ _
  | close fut status =>
    refine ⟨fun str => { str with closeFut := some fut }, .asyncClose h status, fun _ => rfl,
      .inr ⟨by simp, rfl⟩, ?_⟩
    simp only [streamCall, nabtoDeviceStreamClose]
    split_ifs
    · exact ⟨rfl, rfl, rfl⟩
    · exact resolve_same _ _ _
  | abort =>
    exact ⟨fun str => { str with aborted := true }, .release, fun _ => rfl, .inl ⟨rfl, .inl rfl⟩,
      ⟨rfl, rfl, rfl⟩⟩
  | free =>
    exact ⟨fun str => { str with freed := true }, .release, fun _ => rfl, .inl ⟨rfl, .inr rfl⟩,
      ⟨rfl, rfl, rfl⟩⟩

theorem newHandles_eq_nil
    (h : ∀ (i : ℕ) (x y : StreamSlot), a.slots[i]? = some x → b.slots[i]? = some y →
      y.stream.handedOver = x.stream.handedOver) :
    StreamApi.newHandles a b = [] := by
  unfold StreamApi.newHandles
  rw [List.flatMap_eq_nil_iff]
  intro i _
  unfold StreamApi.newHandlesAt
  split
  · rename_i x y hx hy
    rw [h i x y hx hy, List.drop_length, List.map_nil]
  · rfl

theorem coreOp_touches (op : StreamOp) (hslot : api.manager.slots[str.slot]? = some slot) :
    (api.coreOp str op).2.touches =
      api.touches ++ [⟨str.incarnation, slot.stream.incarnation, slot.stream.active⟩] := by
  simp only [StreamApi.coreOp, hslot]
  exact (runCore_same _ _).touches

theorem coreOp_owned {api : StreamApi} (h : Owned api.manager.slots api.owners) {op : StreamOp}
    (hop : op ≠ .release) (hslot : api.manager.slots[str.slot]? = some slot) :
    Owned (api.coreOp str op).2.manager.slots (api.coreOp str op).2.owners := by
  have hcarries : CarriesAll api.manager
      (api.manager.update str.slot fun stream => (ncStreamOp stream op).2) :=
    modify_carries rfl fun slot _ => .of_life (ncStreamOp_life slot.stream hop)
  simp only [StreamApi.coreOp, hslot]
  refine runCore_owned _ ?_ ?_
  · exact h
  · exact hcarries

theorem coreOp_release (str : NabtoDeviceStream)
    (hslot : api.manager.slots[str.slot]? = some slot) :
    (api.coreOp str .release).2.manager.slots = api.manager.slots.modify str.slot (fun slot =>
      { slot with stream := ncStreamRelease slot.stream }) ∧
    (api.coreOp str .release).2.owners = api.owners := by
  simp only [StreamApi.coreOp, hslot]
  have hsame := runCore_same { api with touches := api.touches ++
    [Touch.mk str.incarnation slot.stream.incarnation slot.stream.active] }
    (api.manager.update str.slot fun stream => (ncStreamOp stream .release).2)
  refine ⟨by rw [hsame.manager]; rfl, ?_⟩
  rw [hsame.owners]
  have hnil : StreamApi.newHandles api.manager
      (api.manager.update str.slot fun stream => (ncStreamOp stream .release).2) = [] := by
    refine newHandles_eq_nil fun i x y hx hy => ?_
    simp only [NcStreamManager.update, getElem?_modify_of_some hslot] at hy
    split_ifs at hy with hi
    · subst hi
      obtain rfl : slot = x := Option.some.inj (hslot.symm.trans hx)
      obtain rfl := Option.some.inj hy
      rfl
    · obtain rfl : x = y := Option.some.inj (hx.symm.trans hy)
      rfl
  simp only [StreamApi.owners, hnil, List.append_nil]

/-- A call through a handle whose stream is in the slot, or whose slot is empty. -/
theorem streamCall_owned {api : StreamApi} (h : Owned api.manager.slots api.owners) {i : ℕ}
    (hi : api.handles[i]? = some str) (hslot : api.manager.slots[str.slot]? = some slot)
    (hcall : callsCore str call = true)
    (hown : slot.stream.active = true → slot.stream.incarnation = str.incarnation) :
    Owned (streamCall api i str call).manager.slots (streamCall api i str call).owners := by
  obtain ⟨f, op, hf, hop, hsame⟩ := streamCall_core api i hcall
  rw [hsame.manager, hsame.owners]
  have hmarked := owners_modifyHandle api i hf
  rcases hop with ⟨rfl, hdone⟩ | ⟨hop, hdone⟩
  · obtain ⟨hslots, howners⟩ := coreOp_release (api.modifyHandle i f) str hslot
    rw [hslots, howners, hmarked]
    have ho : api.owners[i]? = some str.owner := by
      simp [StreamApi.owners, hi]
    refine h.release (o := str.owner) ho hslot hown ?_ ?_
    · rcases hdone with rfl | rfl <;> exact fun _ => rfl
    · rcases hdone with rfl | rfl
      · exact .inl rfl
      · exact .inr rfl
  · refine coreOp_owned ?_ hop hslot
    rw [hmarked, hdone, List.modify_id]
    exact h

theorem streamApiStep_iff (flags : NabtoStreamFlags) {api api' : StreamApi} {e : StreamApiEvent}
    (h : Owned api.manager.slots api.owners) (hgood : TouchesOwn api)
    (hs : streamApiStep flags api e = some api') :
    (TouchesOwn api' ↔ strayCall api e = false) ∧
      (strayCall api e = false → Owned api'.manager.slots api'.owners) := by
  cases e with
  | core e =>
    obtain ⟨hallow, hs⟩ := Option.ite_none_right_eq_some.mp hs
    obtain ⟨manager, hcore, rfl⟩ := Option.map_eq_some_iff.mp hs
    refine ⟨iff_of_true ?_ rfl, fun _ => runCore_owned api h (managerStep_carries hallow hcore)⟩
    rw [TouchesOwn, (runCore_same api manager).touches]
    exact hgood
  | call i call =>
    obtain ⟨str, hi, rfl⟩ := Option.map_eq_some_iff.mp hs
    obtain ⟨hi, hfreed⟩ := Option.filter_eq_some_iff.mp hi
    have hmem : str.owner ∈ api.owners := List.mem_map_of_mem (List.mem_of_getElem? hi)
    obtain ⟨slot, hslot, -⟩ := h.handed _ hmem
    have hslot : api.manager.slots[str.slot]? = some slot := hslot
    cases hcall : callsCore str call with
    | false =>
      have hsame := streamCall_quiet api i hcall
      have hstray : strayCall api (.call i call) = false := by simp [strayCall, hi, hcall]
      rw [TouchesOwn, hsame.touches, hsame.manager, hsame.owners]
      exact ⟨iff_of_true hgood hstray, fun _ => h⟩
    | true =>
      -- a handle that was not aborted holds its stream
      have hlive : str.aborted = false →
          slot.stream.active = true → slot.stream.incarnation = str.incarnation := by
        intro haborted _
        have hfreed : str.freed = false := by simpa using hfreed
        exact (h.live _ hmem haborted hfreed slot hslot).incarnation
      have hstray : strayCall api (.call i call) = false ↔
          (slot.stream.active = true → slot.stream.incarnation = str.incarnation) := by
        cases haborted : str.aborted with
        | false => simpa [strayCall, hi, hcall, hslot, haborted] using hlive haborted
        | true => simp [strayCall, hi, hcall, hslot, haborted]
      rw [hstray]
      refine ⟨?_, fun hown => streamCall_owned h hi hslot hcall hown⟩
      obtain ⟨f, op, -, -, hsame⟩ := streamCall_core api i hcall
      rw [TouchesOwn, hsame.touches, coreOp_touches (api.modifyHandle i f) op hslot]
      simp only [List.mem_append, List.mem_singleton]
      constructor
      · intro hall
        exact hall _ (.inr rfl)
      · rintro hown t (ht | rfl)
        · exact hgood t ht
        · exact hown

theorem unused_valid : ncStreamUnused.life.Valid where
  nodup := List.nodup_nil
  past k hk := absurd hk List.not_mem_nil
  present hmem := absurd hmem List.not_mem_nil
  unoffered hactive := by cases hactive

/-- The handles of a run only ever act on their own streams exactly if no call that
reaches the core is made through an aborted handle after its slot got a new stream. -/
theorem handles_touch_own_stream_iff (flags : NabtoStreamFlags) (maxStreams : ℕ)
    {evs : List StreamApiEvent} {s : StreamApi} (h : (streamApi flags maxStreams).Run evs s) :
    (∀ t, (streamApi flags maxStreams).Visits evs t → TouchesOwn t) ↔
      ∀ t e, (streamApi flags maxStreams).Takes evs t e → strayCall t e = false := by
  refine h.good_iff_takes (fun api => Owned api.manager.slots api.owners) TouchesOwn
    (fun t e => strayCall t e = false) ?_ (fun t ht => absurd ht List.not_mem_nil)
    fun t e t' hinv hgood hs => streamApiStep_iff flags hinv hgood hs
  refine ⟨?_, fun o ho => absurd ho List.not_mem_nil, List.nodup_nil,
    fun o ho => absurd ho List.not_mem_nil⟩
  intro i slot hi
  obtain ⟨hlt, rfl⟩ := List.getElem?_eq_some_iff.mp hi
  rw [show (streamApi flags maxStreams).init.manager.slots[i].stream = ncStreamUnused by
    simp [streamApi, ncStreamManagerInit]]
  exact unused_valid

/-- Two streams use one slot in turn, and the application frees the first one, which it
aborted, before the second one comes. -/
def freedInTimeRun : List StreamApiEvent :=
  [.core (.addListener 80 fun _ => 0),
   .core (.packet 7 1 ⟨[5, 2, 2, 0], 0, true, true, [.accept 80 true]⟩),
   .call 0 (.accept 100), .core (.queue 0 [.applicationEvent .opened ⟨[], [], .ok⟩]),
   .call 0 (.readSome 101 16 []), .call 0 .abort,
   .core (.queue 0 [.applicationEvent .closed ⟨[⟨.aborted, []⟩], [], .aborted⟩]),
   .core (.queue 0 [.released]), .call 0 .free,
   .core (.packet 8 2 ⟨[5, 2, 2, 0], 0, true, true, [.accept 80 true]⟩), .call 1 (.accept 102)]

theorem handles_touch_own_stream_freed_in_time :
    (∃ s, (streamApi ⟨2, 4⟩ 10).Run freedInTimeRun s ∧
      s.resolved = [(100, .ok), (101, .aborted)]) ∧
      ∀ t, (streamApi ⟨2, 4⟩ 10).Visits freedInTimeRun t → TouchesOwn t := by
  have hrun : ∃ s, (streamApi ⟨2, 4⟩ 10).Run freedInTimeRun s ∧
      s.resolved = [(100, .ok), (101, .aborted)] := ⟨_, Machine.run_of_exec rfl, by decide +kernel⟩
  refine ⟨hrun, ?_⟩
  obtain ⟨s, hs, -⟩ := hrun
  rw [handles_touch_own_stream_iff ⟨2, 4⟩ 10 hs]
  intro t e ht
  have hall : (streamApi ⟨2, 4⟩ 10).allTaken (fun t e => !strayCall t e)
      (streamApi ⟨2, 4⟩ 10).init freedInTimeRun = true := by decide +kernel
  exact Machine.takes_eq_false_of_allTaken hall ht

/-- The application aborts a stream, its future resolves, and before it frees the stream
another client opens one that gets the slot: the free releases that client's stream. -/
theorem freed_handle_releases_next_stream :
    ∃ s, (streamApi ⟨2, 4⟩ 10).Run
        [.core (.addListener 80 fun _ => 0),
         .core (.packet 7 1 ⟨[5, 2, 2, 0], 0, true, true, [.accept 80 true]⟩),
         .call 0 (.readSome 101 16 []), .call 0 .abort,
         .core (.queue 0 [.applicationEvent .closed ⟨[⟨.aborted, []⟩], [], .aborted⟩]),
         .core (.queue 0 [.released]),
         .core (.packet 8 2 ⟨[5, 2, 2, 0], 0, true, true, [.accept 80 true]⟩),
         .call 0 .free] s ∧
      s.resolved = [(101, .aborted)] ∧
      s.touches = [⟨0, 0, true⟩, ⟨0, 0, true⟩, ⟨0, 1, true⟩] ∧
      s.manager.slots[0]?.map (fun slot => (slot.conn, slot.stream.active, slot.stream.released)) =
        some (some 8, true, true) ∧
      ¬ TouchesOwn s := by
  refine ⟨_, Machine.run_of_exec rfl, by decide +kernel, by decide +kernel, by decide +kernel,
    fun h => ?_⟩
  exact absurd (h ⟨0, 1, true⟩ (by decide +kernel) rfl) (by decide)

end NabtoDevice
