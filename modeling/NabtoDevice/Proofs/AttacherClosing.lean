import NabtoDevice.Sanity.AttacherMoves
import NabtoDevice.Proofs.Attacher
import NabtoDevice.Spec.AttacherNames
import NabtoDevice.Spec.ClosedAttacher

/-! Once its module state is `CLOSED` the attacher starts nothing more, and the callback of
`nc_attacher_async_close` is called once and not lost: until it is called the close event is
posted, a resolution is outstanding, or the DTLS connection has not delivered its terminal
event. -/

namespace NabtoDevice

open AttacherView

/-! ## What the attacher waits for -/

variable {v v' : AttacherView} {s : NcAttacherAttachState} {e : AttacherEvent}

namespace AttacherView

/-- What the attacher waits for in each of its states. The callback is not pending where it
waits for nothing but the close event, unless that event is posted. -/
structure Accounted (v : AttacherView) : Prop where
  left : v.told = true → v.state.isConnected = false
  removed : v.told = true → v.moduleState ≠ .closed → v.AllRemoved
  shaken : v.told = true → v.ssl ≠ .connecting
  resolving : v.moduleState ≠ .setup → v.state = .dns → 0 < v.dnsPending
  waiting : v.moduleState = .closed → v.state ≠ .retryWait ∧ v.state ≠ .accessDeniedWait
  posted : v.closedCb = true → v.moduleState ≠ .closed ∨ v.state = .closed → v.closeEv = true

theorem Accounted.withSsl (h : v.Accounted) {ssl : SslState} (hssl : ssl ≠ .connecting) :
    Accounted { v with ssl := ssl } :=
  ⟨h.left, h.removed, fun _ => hssl, h.resolving, h.waiting, h.posted⟩

theorem Accounted.withKeepAlive (h : v.Accounted) (armed : Bool) :
    Accounted { v with keepAlive := armed } :=
  ⟨h.left, h.removed, h.shaken, h.resolving, h.waiting, h.posted⟩

theorem Accounted.complete (h : v.Accounted) (i : ℕ) (r : CoapClientRequest) :
    (v.complete i r).Accounted :=
  ⟨h.left, fun ht hm => (h.removed ht hm).complete i r, h.shaken, h.resolving, h.waiting, h.posted⟩

theorem accounted_closed (hm : v.moduleState = .closed) (hs : v.state = .closed)
    (hev : v.closeEv = true) (hshaken : v.told = true → v.ssl ≠ .connecting) : v.Accounted where
  left _ := by rw [hs]; rfl
  removed _ hne := absurd hm hne
  shaken := hshaken
  resolving _ hdns := by rw [hs] at hdns; cases hdns
  waiting _ := by simp [hs]
  posted _ _ := hev

theorem Accounted.enter (h : v.Accounted) (hm : v.moduleState ≠ .closed)
    (hrem : v.told = true → v.AllRemoved)
    (hs : s.isConnected = false) {dnsPending : ℕ} (hdns : s = .dns → 0 < dnsPending) (timer : Bool)
    (notified : List NcDeviceEvent) :
    Accounted { v with
      state := s, dnsPending := dnsPending, timer := timer, notified := notified } where
  left _ := hs
  removed ht _ := hrem ht
  shaken := h.shaken
  resolving _ := hdns
  waiting hc := absurd hc hm
  posted hcb _ := h.posted hcb (Or.inl hm)

theorem Accounted.lose (h : v.Accounted) (hm : v.moduleState ≠ .closed) (hssl : v.ssl ≠ .connecting)
    (hs : s.isConnected = false) {dnsPending : ℕ} (hdns : s = .dns → 0 < dnsPending) (timer : Bool)
    (notified : List NcDeviceEvent) :
    Accounted { v.lose with
      state := s, dnsPending := dnsPending, timer := timer, notified := notified } where
  left _ := hs
  removed _ _ := v.drop_allRemoved
  shaken _ := hssl
  resolving _ := hdns
  waiting hc := absurd hc hm
  posted hcb _ := h.posted hcb (Or.inl hm)

theorem Accounted.tellsClosed (h : v.Accounted) (hssl : v.ssl ≠ .connecting)
    (ht : TellsClosed v v') : v'.Accounted := by
  cases ht with
  | shut hm => exact accounted_closed hm rfl rfl fun _ => hssl
  | denied hm hs =>
    have hstate : v.state.isConnected = false := by rw [hs]; rfl
    exact h.lose hm hssl hstate (fun hd => by rw [hs] at hd; cases hd) v.timer v.notified
  | wait hm => exact h.lose hm hssl rfl (by simp) true v.notified
  | detach hm => exact h.lose hm hssl rfl (by simp) true _
  | follow hm hs => exact h.lose hm hssl rfl (fun _ => Nat.succ_pos _) v.timer v.notified

theorem Accounted.closes (h : v.Accounted) (hc : Closes v v') : v'.Accounted := by
  cases hc with
  | already => exact h
  | sending => exact h.withSsl (by simp)
  | tells _ ht => exact (h.withSsl (by simp)).tellsClosed (by simp) ht

/-- A request is sent on a connection that has not delivered its terminal event. -/
theorem Accounted.request (h : v.Accounted) (hopen : v.told = true → v.moduleState = .closed)
    (r : CoapClientRequest) (cb : Option NcAttacherSctCallback) :
    Accounted { v with requests := v.requests ++ [r], sctCallback := cb } :=
  ⟨h.left, fun ht hm => absurd (hopen ht) hm, h.shaken, h.resolving, h.waiting, h.posted⟩

theorem Accounted.uploads (h : v.Accounted) (hopen : v.told = true → v.moduleState = .closed)
    (hu : Uploads v v') : v'.Accounted := by
  cases hu with
  | nothing => exact h
  | upload hcb scts => exact h.request hopen _ _

theorem Accounted.connected (h : v.Accounted) (hm : v.moduleState ≠ .closed)
    (hopen : v.told = false) (hs : s ≠ .dns) (armed : Bool) (notified : List NcDeviceEvent) :
    Accounted { v with state := s, keepAlive := armed, notified := notified } where
  left ht := absurd ht (by simp [hopen])
  removed ht := absurd ht (by simp [hopen])
  shaken := h.shaken
  resolving _ hd := absurd hd hs
  waiting hc := absurd hc hm
  posted hcb _ := h.posted hcb (Or.inl hm)

theorem Accounted.goesOn (h : v.Accounted) (hm : v.moduleState ≠ .closed) (hopen : v.told = false)
    (hg : GoesOn v v') : v'.Accounted := by
  have hnot : v.told = true → v.moduleState = .closed := fun ht => by
    rw [hopen] at ht
    cases ht
  cases hg with
  | fail hc => exact h.closes hc
  | upload hcb scts => exact h.request hnot _ _
  | request => exact h.request hnot _ v.sctCallback
  | redirect hc => exact (h.connected hm hopen (by simp) v.keepAlive v.notified).closes hc
  | attach hu => exact (h.connected hm hopen (by simp) true _).uploads hnot hu

theorem Accounted.reads {ev : Option NpDtlsCliEvent} (h : v.Accounted) (hr : Reads v ev v') :
    v'.Accounted := by
  cases hr with
  | nothing => exact h
  | eof => exact h.withSsl (by simp)
  | closed _ ht => exact (h.withSsl (by simp)).tellsClosed (by simp) ht
  | shut _ hm hssl => exact accounted_closed hm rfl rfl fun _ => hssl
  | @denied _ hm ssl hssl w hreset =>
    obtain ⟨hrem, -, hev, hshaken⟩ := hreset.allRemoved hm (drop_allRemoved _) rfl hssl
    have hsame := hreset.sameModule
    refine ⟨fun _ => rfl, fun _ _ => hrem, fun _ => hshaken, nofun, ?_, ?_⟩
    · intro hc
      exact absurd (hsame.1.symm.trans hc) hm
    · intro hcb _
      exact hev.trans (h.posted (hsame.2.1.symm.trans hcb) (Or.inl hm))
  | refuse _ hc => exact (h.withSsl (by simp)).closes hc
  | request hssl hm =>
    have hopen : v.told = true → v.moduleState = .closed := fun ht => absurd hssl (h.shaken ht)
    have hdata : Accounted { v with ssl := .data } := h.withSsl (by simp)
    exact hdata.request hopen _ v.sctCallback

theorem Accounted.shut (h : v.Accounted) (hm : v.moduleState ≠ .setup)
    (hwait : v.state ≠ .retryWait ∧ v.state ≠ .accessDeniedWait) (hs : v.state ≠ .closed)
    (cb armed : Bool) :
    Accounted { v with moduleState := .closed, closedCb := cb, keepAlive := armed } where
  left := h.left
  removed _ hne := absurd rfl hne
  shaken := h.shaken
  resolving _ := h.resolving hm
  waiting _ := hwait
  posted _ hstate := by
    rcases hstate with hne | hclosed
    · exact absurd rfl hne
    · exact absurd hclosed hs

theorem Accounted.shutsDown (h : v.Accounted) {cb armed : Bool}
    (hd : ShutsDown { v with closedCb := cb, keepAlive := armed } v') : v'.Accounted := by
  cases hd with
  | setup hm => exact ⟨h.left, h.removed, h.shaken, h.resolving, h.waiting, fun _ _ => rfl⟩
  | waiting hm hs => exact accounted_closed rfl rfl rfl h.shaken
  | again hm hs => exact accounted_closed rfl hs rfl h.shaken
  | connected hm hs hc =>
    refine (h.shut hm ?_ ?_ cb armed).closes hc <;> rcases hs with hs | hs <;>
      simp [show v.state = _ from hs]
  | later hm hs =>
    refine h.shut hm ?_ ?_ cb armed <;> rcases hs with hs | hs <;> simp [show v.state = _ from hs]

theorem Accounted.moves (h : v.Accounted) (hmove : Moves v e v') : v'.Accounted := by
  cases hmove with
  | rest => exact h
  | start hm => exact ⟨fun _ => rfl, fun ht _ => h.removed ht (by simp [hm]), h.shaken,
      fun _ _ => Nat.succ_pos _, nofun, fun hcb _ => h.posted hcb (Or.inl (by simp [hm]))⟩
  | asyncClose hd => exact h.shutsDown hd
  | stop hd => exact h.shutsDown hd
  | addToken hs hu =>
    refine h.uploads (fun ht => ?_) hu
    have := h.left ht
    rw [hs] at this
    cases this
  | resolvedLate hp hm => exact accounted_closed hm rfl rfl h.shaken
  | resolveFailed hp hm =>
    exact h.enter hm (fun ht => h.removed ht hm) rfl (by simp) true v.notified
  | connect hp hm hr =>
    have hconnected : Accounted { v with
        dnsPending := v.dnsPending - 1, state := .dtlsAttachRequest, ssl := .connecting
        connects := v.connects + 1, told := false } :=
      ⟨nofun, nofun, nofun, nofun, fun hc => absurd hc hm, fun hcb _ => h.posted hcb (Or.inl hm)⟩
    exact hconnected.reads hr
  | packet _ hr => exact h.reads hr
  | dtlsTimer hr => exact h.reads hr
  | udpSent _ hr => exact h.reads hr
  | udpSentLast hssl ht => exact h.tellsClosed (by simp [hssl]) ht
  | fails hi ha hc => exact (h.complete _ _).closes hc
  | @goesOn i res env r _ hi ha hr hm hg =>
    have hopen : v.told = false := by
      by_contra hne
      have hremoved := h.removed (by simpa using hne) hm r (List.mem_of_getElem? hi)
      rw [hr] at hremoved
      cases hremoved
    exact (h.complete i r).goesOn hm hopen hg
  | @synchronizes i res env r _ hi ha hr hu =>
    by_cases hremoved : r.removed = true
    · rw [hr hremoved]
      exact h.complete i r
    · refine (h.complete i r).uploads (fun ht => ?_) hu
      by_contra hm
      exact hremoved (h.removed ht hm r (List.mem_of_getElem? hi))
  | tick => exact h
  | timeout _ hc => exact (h.withKeepAlive _).closes hc
  | reattach ht hm =>
    exact h.enter hm (fun htold => h.removed htold hm) rfl
      (fun _ => Nat.succ_pos _) false v.notified
  | reattachLate ht hm => exact accounted_closed hm rfl rfl h.shaken
  | closeEv => exact ⟨h.left, h.removed, h.shaken, h.resolving, h.waiting, nofun⟩

end AttacherView

variable {ctx : NcAttachContext}

theorem accounted_run {evs : List AttacherEvent} (h : attacher.Run evs ctx) :
    (view ctx).Accounted := by
  refine h.invariant (fun ctx => (view ctx).Accounted) ?_ fun t e t' ht hs =>
    ht.moves (moves_step hs)
  exact ⟨nofun, nofun, nofun, fun hm => absurd rfl hm, nofun, nofun⟩

/-! ## After the module has been closed -/

theorem resolvesStarted_of_closed {ctx' : NcAttachContext}
    (h : WindsDown (resolved e) (view ctx) (view ctx')) : resolvesStarted ctx ctx' e = 0 := by
  obtain ⟨-, -, -, -, hdns⟩ := h
  change ctx'.dnsPending + resolved e = ctx.dnsPending at hdns
  cases e with
  | dnsResolved ok env =>
    have hone : ctx'.dnsPending + 1 = ctx.dnsPending := hdns
    simp only [resolvesStarted]
    omega
  | _ =>
    have hsame : ctx'.dnsPending = ctx.dnsPending := hdns
    simp only [resolvesStarted]
    omega

/-! ## The closed callback -/

namespace AttacherView

theorem ShutsDown.closedCb_eq (h : ShutsDown v v') : v'.closedCb = v.closedCb := by
  cases h with
  | setup | waiting | again | later => rfl
  | connected _ _ hc => exact hc.sameModule.2.1

/-- The callback is set by `nc_attacher_async_close` and cleared by `resolve_close` only. -/
theorem Moves.closedCb_eq (h : Moves v e v') :
    v'.closedCb = match e with
      | .asyncClose _ => true
      | .closeEv => false
      | _ => v.closedCb := by
  cases h with
  | @rest e he =>
    cases e with
    | start | addToken | startSend | coapSend => rfl
    | _ => cases he
  | asyncClose hd => exact hd.closedCb_eq
  | stop hd => exact hd.closedCb_eq
  | start | resolvedLate | resolveFailed | tick | reattach | reattachLate | closeEv => rfl
  | addToken _ hu => exact hu.sameModule.2.1
  | connect _ _ hr => exact hr.sameModule.2.1
  | packet _ hr => exact hr.sameModule.2.1
  | dtlsTimer hr => exact hr.sameModule.2.1
  | udpSent _ hr => exact hr.sameModule.2.1
  | udpSentLast _ ht => exact ht.sameModule.2.1
  | fails _ _ hc => exact hc.sameModule.2.1
  | goesOn _ _ _ _ hg => exact hg.sameModule.2.1
  | synchronizes _ _ _ hu => exact hu.sameModule.2.1
  | timeout _ hc => exact hc.sameModule.2.1

end AttacherView

def isAsyncClose : AttacherEvent → Bool
  | .asyncClose _ => true
  | _ => false

/-- A callback that was given has been called or is still to be called; one that is given
while another is pending takes its place. -/
theorem closedCb_account {evs : List AttacherEvent} (h : attacher.Run evs ctx) :
    attacher.countTaken callsClosedCb attacher.init evs + ctx.closedCb.toNat ≤
      evs.countP isAsyncClose ∧ (evs.countP isAsyncClose ≤ 1 →
        attacher.countTaken callsClosedCb attacher.init evs + ctx.closedCb.toNat =
          evs.countP isAsyncClose) := by
  induction h with
  | nil => exact ⟨le_rfl, fun _ => rfl⟩
  | @snoc evs t e t' hr hs ih =>
    obtain ⟨hle, heq⟩ := ih
    have hcb : t'.closedCb = _ := (moves_step hs).closedCb_eq
    rw [hr.countTaken_snoc callsClosedCb hs, List.countP_append, hcb]
    cases e with
    | asyncClose env =>
      have hone : List.countP isAsyncClose [AttacherEvent.asyncClose env] = 1 := rfl
      simp only [callsClosedCb, hone, Bool.toNat_true, Bool.toNat_false, Nat.add_zero]
      refine ⟨by omega, fun hsmall => ?_⟩
      have := heq (by omega)
      omega
    | closeEv =>
      have hnone : List.countP isAsyncClose [AttacherEvent.closeEv] = 0 := rfl
      simp only [callsClosedCb, hnone, Bool.toNat_false, Nat.add_zero]
      exact ⟨hle, heq⟩
    | _ =>
      simp only [callsClosedCb, List.countP_singleton, isAsyncClose, Bool.toNat_false, Nat.add_zero]
      exact ⟨hle, heq⟩

/-- The DTLS connection delivers one terminal event: never a second one, and it has
delivered one when it is closed and no UDP send is outstanding. -/
structure OneTerminalEvent (ctx : NcAttachContext) : Prop where
  atMost : ctx.dtlsEvents.countP NpDtlsCliEvent.isTerminal ≤ 1
  ended : ctx.dtls.state = .closing → ctx.dtls.udpSends = 0 →
    ctx.dtlsEvents.countP NpDtlsCliEvent.isTerminal = 1

structure Unfinished (ctx : NcAttachContext) : Prop where
  connected : ctx.state.isConnected = true
  untold : ctx.dtlsEvents.countP NpDtlsCliEvent.isTerminal = 0
  outstanding : ctx.dtls.state ≠ .closing ∨ 0 < ctx.dtls.udpSends

theorem unfinished_of_connected (h : (view ctx).Accounted) (hone : OneTerminalEvent ctx)
    (hs : ctx.state.isConnected = true) : Unfinished ctx := by
  have hnot : (view ctx).told ≠ true := fun ht => by
    have := h.left ht
    rw [show (view ctx).state = ctx.state from rfl, hs] at this
    cases this
  have huntold : ctx.dtlsEvents.countP NpDtlsCliEvent.isTerminal = 0 := by
    rw [List.countP_eq_zero]
    intro ev hev hterm
    exact hnot (List.any_eq_true.mpr ⟨ev, hev, hterm⟩)
  refine ⟨hs, huntold, ?_⟩
  by_contra hover
  rw [not_or, not_not, Nat.not_lt, Nat.le_zero] at hover
  have := hone.ended hover.1 hover.2
  omega

theorem pending_closedCb (h : (view ctx).Accounted) (hone : OneTerminalEvent ctx)
    (hcb : ctx.closedCb = true) : ctx.closeEv = true ∨ 0 < ctx.dnsPending ∨ Unfinished ctx := by
  by_cases hm : ctx.moduleState = .closed
  · cases hs : ctx.state with
    | dns =>
      have hsetup : ctx.moduleState ≠ .setup := by simp [hm]
      exact Or.inr (Or.inl (h.resolving hsetup hs))
    | closed => exact Or.inl (h.posted hcb (Or.inr hs))
    | retryWait => exact absurd hs (h.waiting hm).1
    | accessDeniedWait => exact absurd hs (h.waiting hm).2
    | dtlsAttachRequest | redirect | attached =>
      exact Or.inr (Or.inr (unfinished_of_connected h hone (by rw [hs]; rfl)))
  · exact Or.inl (h.posted hcb (Or.inl hm))

/-- In every run, a closed module starts no resolution, does not connect, does not enter
`ATTACHED` and tells the listener nothing; and the callback of a single
`nc_attacher_async_close` is called at most once, with something outstanding until then. -/
theorem closed_attacher_settles {evs : List AttacherEvent} {ctx : NcAttachContext}
    (h : attacher.Run evs ctx) (hone : OneTerminalEvent ctx) :
    (∀ t e t', attacher.Takes evs t e → attacherStep t e = some t' → t.moduleState = .closed →
      t'.moduleState = .closed ∧ resolvesStarted t t' e = 0 ∧ t'.dtlsConnects = t.dtlsConnects ∧
        (t'.state = .attached → t.state = .attached) ∧ t'.trace = t.trace) ∧
    (evs.countP isAsyncClose = 1 →
      attacher.countTaken callsClosedCb attacher.init evs ≤ 1 ∧
        (attacher.countTaken callsClosedCb attacher.init evs = 0 →
          ctx.closeEv = true ∨ 0 < ctx.dnsPending ∨ Unfinished ctx)) := by
  constructor
  · intro t e t' _ hs hm
    have hdown := (moves_step hs).windsDown hm
    have hnone := resolvesStarted_of_closed hdown
    obtain ⟨hclosed, hsilent, hconnects, hstate, -⟩ := hdown
    refine ⟨hclosed, hnone, hconnects, fun hatt => ?_, hsilent⟩
    rcases hstate with hsame | hend
    · exact hsame.symm.trans hatt
    · cases hend.symm.trans hatt
  · intro hclose
    obtain ⟨-, hcount⟩ := closedCb_account h
    have hsum := hcount hclose.le
    refine ⟨by omega, fun hnone => ?_⟩
    apply pending_closedCb (accounted_run h) hone
    cases hcb : ctx.closedCb with
    | true => rfl
    | false =>
      rw [hcb, Bool.toNat_false] at hsum
      omega

def closeAttachedRun : List AttacherEvent :=
  .start :: attachRun ++ [.asyncClose { closeNotify := true }]

theorem closed_attacher_settles_attached :
    ∃ ctx, attacher.Run closeAttachedRun ctx ∧ OneTerminalEvent ctx ∧
      closeAttachedRun.countP isAsyncClose = 1 ∧
      (ctx.closeEv = true ∨ 0 < ctx.dnsPending ∨ Unfinished ctx) := by
  have hr : attacher.Run closeAttachedRun _ := Machine.run_of_exec rfl
  have hpending (hone : OneTerminalEvent _) :=
    ((closed_attacher_settles hr hone).2 (by decide +kernel)).2 (by decide +kernel)
  refine ⟨_, hr, ?_, by decide +kernel, hpending ?_⟩ <;>
    exact ⟨by decide +kernel, by decide +kernel⟩

end NabtoDevice
