import NabtoDevice.Spec.Stream
import NabtoDevice.Lib.Oneshot

/-! What the functions of a stream slot do, said once for each of them. They only
touch two things: the life of the stream (`StreamLife`), which read, write, accept
and close leave alone, and the registered callbacks, seen as one-shot tokens that
those functions may fire. -/

namespace NabtoDevice

/-- Which stream a slot holds and what became of it. -/
structure StreamLife where
  active : Bool
  incarnation : ℕ
  offered : Bool
  released : Bool
  handedOver : List ℕ
  deriving DecidableEq, Repr

namespace NcStreamContext

def life (ctx : NcStreamContext) : StreamLife :=
  ⟨ctx.active, ctx.incarnation, ctx.offered, ctx.released, ctx.handedOver⟩

def oneshot (ctx : NcStreamContext) : Oneshot NcStreamCallback :=
  ⟨ctx.registered, (ctx.calls.map Prod.fst : List NcStreamCallback)⟩

end NcStreamContext

/-- From `a` to `b` some callbacks fire, and the stream and its registrations stay. -/
structure Resolves (a b : NcStreamContext) : Prop where
  life : b.life = a.life
  registrations : b.registrations = a.registrations
  fires : Oneshot.Fires a.oneshot b.oneshot
  calls : a.calls <+: b.calls

variable (ctx : NcStreamContext)

theorem Resolves.refl : Resolves ctx ctx :=
  ⟨rfl, rfl, .refl _, List.prefix_refl _⟩

theorem Resolves.trans {a b c : NcStreamContext} (hab : Resolves a b) (hbc : Resolves b c) :
    Resolves a c :=
  ⟨hbc.life.trans hab.life, hbc.registrations.trans hab.registrations, hab.fires.trans hbc.fires,
    hab.calls.trans hbc.calls⟩

/-- A callback leaves its field and is called. -/
theorem Resolves.of_call {a b : NcStreamContext} {cb : NcStreamCallback} {ec : NpErrorCode}
    (hlife : b.life = a.life) (hregs : b.registrations = a.registrations)
    (hreg : a.registered.Perm (cb :: b.registered)) (hcalls : b.calls = a.calls ++ [(cb, ec)]) :
    Resolves a b := by
  refine ⟨hlife, hregs, ?_, hcalls ▸ List.prefix_append _ _⟩
  have ha : a.oneshot = ⟨cb ::ₘ ↑b.registered, (a.calls.map Prod.fst : List NcStreamCallback)⟩ := by
    simp only [NcStreamContext.oneshot, Oneshot.mk.injEq, and_true]
    exact Multiset.coe_eq_coe.mpr hreg
  have hb : b.oneshot = ⟨b.registered, cb ::ₘ (a.calls.map Prod.fst : List NcStreamCallback)⟩ := by
    simp only [NcStreamContext.oneshot, hcalls, List.map_append, List.map_cons, List.map_nil,
      Oneshot.mk.injEq, true_and]
    exact Multiset.coe_eq_coe.mpr (List.perm_append_singleton _ _)
  rw [ha, hb]
  exact Oneshot.Fires.one

variable (ec : NpErrorCode)

theorem resolveAccept_resolves : Resolves ctx (ncStreamResolveAccept ctx ec) := by
  unfold ncStreamResolveAccept
  split
  · rename_i cb h
    refine .of_call rfl rfl ?_ rfl
    simp [NcStreamContext.registered, NcStreamContext.call, h]
  · exact .refl ctx

theorem resolveWrite_resolves : Resolves ctx (ncStreamResolveWrite ctx ec) := by
  unfold ncStreamResolveWrite
  split
  · rename_i cb h
    refine .of_call rfl rfl ?_ rfl
    simp only [NcStreamContext.registered, NcStreamContext.call, h, Option.toList_some,
      Option.toList_none, List.append_nil, List.append_assoc, List.singleton_append]
    simp only [← List.append_assoc]
    exact List.perm_middle
  · exact .refl ctx

theorem resolveClose_resolves : Resolves ctx (ncStreamResolveClose ctx ec) := by
  unfold ncStreamResolveClose
  split
  · rename_i cb h
    refine .of_call rfl rfl ?_ rfl
    simp only [NcStreamContext.registered, NcStreamContext.call, h, Option.toList_some,
      Option.toList_none, List.append_nil]
    exact List.perm_append_singleton _ _
  · exact .refl ctx

theorem resolveRead_resolves : Resolves ctx (ncStreamResolveRead ctx ec) := by
  unfold ncStreamResolveRead
  split
  · rename_i cb h
    refine .of_call rfl rfl ?_ rfl
    simp only [NcStreamContext.registered, NcStreamContext.call, h, Option.toList_some,
      Option.toList_none, List.append_nil, List.append_assoc, List.singleton_append]
    exact List.perm_middle
  · rename_i cb hall hsome
    refine .of_call rfl rfl ?_ rfl
    simp only [NcStreamContext.registered, NcStreamContext.call, hall, hsome, Option.toList_some,
      Option.toList_none, List.append_nil, List.append_assoc, List.singleton_append]
    exact List.perm_middle
  · exact ⟨rfl, rfl, .refl _, List.prefix_refl _⟩

theorem doRead_resolves (answers : List ReadAnswer) (ctx : NcStreamContext) :
    Resolves ctx (ncStreamDoRead ctx answers) := by
  induction answers generalizing ctx with
  | nil => exact .refl ctx
  | cons answer answers ih =>
    rw [ncStreamDoRead]
    split_ifs
    · exact .refl ctx
    · dsimp only
      -- storing the bytes touches neither the stream nor a callback
      have hstored (bytes : List UInt8) (n : ℕ) :
          Resolves ctx { ctx with readBytes := bytes, readBufferLength := n } :=
            ⟨rfl, rfl, .refl _, List.prefix_refl _⟩
      split_ifs
      · exact .refl ctx
      · exact (hstored _ _).trans (resolveRead_resolves _ _)
      · exact (hstored _ _).trans (ih _)
      · exact (hstored _ _).trans (resolveRead_resolves _ _)
    · exact resolveRead_resolves ctx _

theorem doWriteAll_resolves (answers : List WriteAnswer) (ctx : NcStreamContext) :
    Resolves ctx (ncStreamDoWriteAll ctx answers) := by
  induction answers generalizing ctx with
  | nil => exact .refl ctx
  | cons answer answers ih =>
    rw [ncStreamDoWriteAll]
    dsimp only
    split_ifs
    · exact .refl ctx
    · exact resolveWrite_resolves ctx _
    · have hdrop (rest : List UInt8) : Resolves ctx { ctx with writeBuffer := rest } :=
        ⟨rfl, rfl, .refl _, List.prefix_refl _⟩
      exact (hdrop _).trans (ih _)
    · exact resolveWrite_resolves ctx _

theorem handleClose_resolves (status : NabtoStreamStatus) :
    Resolves ctx (ncStreamHandleClose ctx status) := by
  unfold ncStreamHandleClose
  split_ifs
  · exact .refl ctx
  · split
    · exact .refl ctx
    · exact resolveClose_resolves ctx _
    · exact resolveClose_resolves ctx _

theorem applicationEvent_resolves (eventType : NabtoStreamApplicationEventType)
    (answers : ApplicationAnswers) :
    Resolves ctx (ncStreamApplicationEventCallback ctx eventType answers) := by
  have hwrite : Resolves ctx
      (if ctx.writeCb.isSome then ncStreamDoWriteAll ctx answers.writes else ctx) := by
    split_ifs
    · exact doWriteAll_resolves _ _
    · exact .refl ctx
  cases eventType with
  | opened => exact resolveAccept_resolves ctx _
  | dataReady => exact doRead_resolves _ ctx
  | dataWrite => exact hwrite
  | readClosed => exact doRead_resolves _ ctx
  | writeClosed => exact resolveClose_resolves ctx _
  | closed =>
    refine hwrite.trans ?_
    refine (resolveAccept_resolves _ .aborted).trans ?_
    exact (doRead_resolves _ _).trans (handleClose_resolves _ _)

theorem sendPacket_resolves (packetSize : ℕ) (ec : NpErrorCode) :
    Resolves ctx (ncStreamSendPacket ctx packetSize ec) := by
  unfold ncStreamSendPacket
  split_ifs
  · exact .refl ctx
  · exact .refl ctx
  · exact ⟨rfl, rfl, .refl _, List.prefix_refl _⟩
  · exact ⟨rfl, rfl, .refl _, List.prefix_refl _⟩

/-- What `nc_stream_event` can do: offer the stream to a listener, destroy it, or
leave it and fire some of its callbacks. -/
theorem ncStreamEvent_cases (listeners : List ℕ) (ctx : NcStreamContext)
    (answers : List NabtoStreamNextEvent) :
    (∃ contentType kept, ncStreamNextEvent ctx answers = .accept contentType kept ∧
      ncStreamEvent listeners ctx answers =
        ncStreamManagerReadyForAccept listeners ctx contentType kept) ∨
    (ncStreamNextEvent ctx answers = .released ∧
      ncStreamEvent listeners ctx answers = ncStreamDestroy ctx) ∨
    ((∀ contentType kept, ncStreamNextEvent ctx answers ≠ .accept contentType kept) ∧
      ncStreamNextEvent ctx answers ≠ .released ∧
      Resolves ctx (ncStreamEvent listeners ctx answers)) := by
  unfold ncStreamEvent
  cases hnext : ncStreamNextEvent ctx answers with
  | accept contentType kept => exact .inl ⟨contentType, kept, rfl, rfl⟩
  | released => exact .inr (.inl ⟨rfl, rfl⟩)
  | send packetSize ec => exact .inr (.inr ⟨nofun, nofun, sendPacket_resolves ctx packetSize ec⟩)
  | applicationEvent eventType answers =>
    exact .inr (.inr ⟨nofun, nofun, applicationEvent_resolves ctx eventType answers⟩)
  | timeout | timeWait | wait | nothing | closed => exact .inr (.inr ⟨nofun, nofun, .refl ctx⟩)

/-- The next event only depends on whether there is a DTLS connection. -/
theorem ncStreamNextEvent_congr {a b : NcStreamContext} (h : a.dtls = b.dtls)
    (answers : List NabtoStreamNextEvent) :
    ncStreamNextEvent a answers = ncStreamNextEvent b answers := by
  induction answers with
  | nil => rfl
  | cons event answers ih => cases event <;> simp only [ncStreamNextEvent, h, ih]

theorem destroy_active : (ncStreamDestroy ctx).active = false := by
  unfold ncStreamDestroy
  split_ifs with h
  · simpa using h
  · rfl

/-- `nc_stream_event` destroys a stream exactly when the library released it. -/
theorem ncStreamEvent_active (listeners : List ℕ) (ctx : NcStreamContext)
    (answers : List NabtoStreamNextEvent) :
    (ncStreamEvent listeners ctx answers).active = true ↔
      ctx.active = true ∧ ncStreamNextEvent ctx answers ≠ .released := by
  rcases ncStreamEvent_cases listeners ctx answers with
    ⟨contentType, kept, hnext, heq⟩ | ⟨hnext, heq⟩ | ⟨-, hnext, hres⟩
  · have hactive : (ncStreamManagerReadyForAccept listeners ctx contentType kept).active =
        ctx.active := by
      unfold ncStreamManagerReadyForAccept
      dsimp only
      split_ifs <;> rfl
    simp [heq, hnext, hactive]
  · simp [heq, hnext, destroy_active]
  · have hactive : (ncStreamEvent listeners ctx answers).active = ctx.active :=
      congrArg StreamLife.active hres.life
    simp [hactive, hnext]

structure Registers (a b : NcStreamContext) (cb : NcStreamCallback) : Prop where
  life : b.life = a.life
  registrations : b.registrations = a.registrations + 1
  id : cb.id = a.registrations
  incarnation : cb.incarnation = a.incarnation
  pending : b.oneshot.pending = cb ::ₘ a.oneshot.pending
  fired : b.oneshot.fired = a.oneshot.fired

def StreamOp.callback : StreamOp → Option (StreamCallbackKind × ℕ)
  | .asyncAccept userData => some (.accept, userData)
  | .asyncReadAll userData _ _ | .asyncReadSome userData _ _ => some (.read, userData)
  | .asyncWrite userData _ _ => some (.write, userData)
  | .asyncClose userData _ => some (.close, userData)
  | .release => none

/-- An operation with a callback does nothing where one of its kind is in progress, or
registers the callback, which may fire at once. -/
theorem ncStreamOp_async {op : StreamOp} {kind : StreamCallbackKind} {userData : ℕ}
    (hop : op.callback = some (kind, userData)) :
    ncStreamOp ctx op = (.operationInProgress, ctx) ∨
    (ncStreamOp ctx op).1 = .ok ∧ ∃ mid, Registers ctx mid (ctx.newCallback kind userData) ∧
      mid.calls = ctx.calls ∧ Resolves mid (ncStreamOp ctx op).2 := by
  cases op with
  | release => cases hop
  | asyncAccept userData =>
    obtain ⟨rfl, rfl⟩ := Prod.mk.inj (Option.some.inj hop)
    simp only [ncStreamOp, ncStreamAsyncAccept]
    split_ifs with h
    · exact .inl rfl
    · refine .inr ⟨rfl, _, ?_, ?_, .refl _⟩
      · refine ⟨rfl, rfl, rfl, rfl, ?_, rfl⟩
        simp only [Option.isSome_iff_ne_none, ne_eq, not_not] at h
        simp [NcStreamContext.oneshot, NcStreamContext.registered, h]
      · rfl
  | asyncReadAll userData bufferLength answers =>
    obtain ⟨rfl, rfl⟩ := Prod.mk.inj (Option.some.inj hop)
    simp only [ncStreamOp, ncStreamAsyncReadAll]
    split_ifs with h
    · exact .inl rfl
    · refine .inr ⟨rfl, _, ?_, ?_, doRead_resolves _ _⟩
      · refine ⟨rfl, rfl, rfl, rfl, ?_, rfl⟩
        simp only [Bool.or_eq_true, Option.isSome_iff_ne_none, ne_eq, not_or, not_not] at h
        simp only [NcStreamContext.oneshot, NcStreamContext.registered, h.1, h.2,
          Option.toList_some, Option.toList_none, List.append_nil, List.append_assoc,
            List.singleton_append]
        exact Multiset.coe_eq_coe.mpr List.perm_middle
      · rfl
  | asyncReadSome userData bufferLength answers =>
    obtain ⟨rfl, rfl⟩ := Prod.mk.inj (Option.some.inj hop)
    simp only [ncStreamOp, ncStreamAsyncReadSome]
    split_ifs with h
    · exact .inl rfl
    · refine .inr ⟨rfl, _, ?_, ?_, doRead_resolves _ _⟩
      · refine ⟨rfl, rfl, rfl, rfl, ?_, rfl⟩
        simp only [Bool.or_eq_true, Option.isSome_iff_ne_none, ne_eq, not_or, not_not] at h
        simp only [NcStreamContext.oneshot, NcStreamContext.registered, h.1, h.2,
          Option.toList_some, Option.toList_none, List.append_nil, List.append_assoc,
            List.singleton_append]
        exact Multiset.coe_eq_coe.mpr List.perm_middle
      · rfl
  | asyncWrite userData buffer answers =>
    obtain ⟨rfl, rfl⟩ := Prod.mk.inj (Option.some.inj hop)
    simp only [ncStreamOp, ncStreamAsyncWrite]
    split_ifs with h
    · exact .inl rfl
    · refine .inr ⟨rfl, _, ?_, ?_, doWriteAll_resolves _ _⟩
      · refine ⟨rfl, rfl, rfl, rfl, ?_, rfl⟩
        simp only [Option.isSome_iff_ne_none, ne_eq, not_not] at h
        simp only [NcStreamContext.oneshot, NcStreamContext.registered, h, Option.toList_some,
          Option.toList_none, List.append_nil, List.append_assoc, List.singleton_append]
        simp only [← List.append_assoc]
        exact Multiset.coe_eq_coe.mpr List.perm_middle
      · rfl
  | asyncClose userData status =>
    obtain ⟨rfl, rfl⟩ := Prod.mk.inj (Option.some.inj hop)
    simp only [ncStreamOp, ncStreamAsyncClose]
    split_ifs with h
    · exact .inl rfl
    · refine .inr ⟨rfl, { ctx with
        closeCb := some (ctx.newCallback .close userData), registrations := ctx.registrations + 1 },
        ⟨rfl, rfl, rfl, rfl, ?_, rfl⟩, rfl, handleClose_resolves _ status⟩
      simp only [Option.isSome_iff_ne_none, ne_eq, not_not] at h
      simp only [NcStreamContext.oneshot, NcStreamContext.registered, h, Option.toList_some,
        Option.toList_none, List.append_nil]
      exact Multiset.coe_eq_coe.mpr (List.perm_append_singleton _ _)

/-- What the owner of a stream can do: release it, nothing where the operation is in
progress, or register a callback that may fire at once. -/
theorem ncStreamOp_cases (op : StreamOp) :
    (op = .release ∧ (ncStreamOp ctx op).2 = ncStreamRelease ctx) ∨
    (op ≠ .release ∧ ncStreamOp ctx op = (.operationInProgress, ctx)) ∨
    (op ≠ .release ∧ ∃ cb mid, Registers ctx mid cb ∧ Resolves mid (ncStreamOp ctx op).2) := by
  by_cases hop : op = .release
  · subst hop
    exact .inl ⟨rfl, rfl⟩
  · have hcb : ∃ cb, op.callback = some cb := by
      cases op with
      | release => exact absurd rfl hop
      | asyncAccept | asyncReadAll | asyncReadSome | asyncWrite | asyncClose => exact ⟨_, rfl⟩
    obtain ⟨⟨kind, userData⟩, hcb⟩ := hcb
    rcases ncStreamOp_async ctx hcb with hbusy | ⟨-, mid, hreg, -, hres⟩
    · exact .inr (.inl ⟨hop, hbusy⟩)
    · exact .inr (.inr ⟨hop, _, mid, hreg, hres⟩)

theorem ncStreamOp_life {op : StreamOp} (hop : op ≠ .release) :
    (ncStreamOp ctx op).2.life = ctx.life := by
  rcases ncStreamOp_cases ctx op with ⟨heq, -⟩ | ⟨-, heq⟩ | ⟨-, cb, mid, hreg, hres⟩
  · exact absurd heq hop
  · rw [heq]
  · exact hres.life.trans hreg.life

theorem ncStreamOp_active (op : StreamOp) : (ncStreamOp ctx op).2.active = ctx.active := by
  by_cases hop : op = .release
  · rw [hop]
    rfl
  · exact congrArg StreamLife.active (ncStreamOp_life ctx hop)

end NabtoDevice
