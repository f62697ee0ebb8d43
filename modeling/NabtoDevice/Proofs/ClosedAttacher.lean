import NabtoDevice.Sanity.AttacherMoves
import NabtoDevice.Proofs.Attacher
import NabtoDevice.Spec.ClosedAttacher

/-! After the closed callback the attacher is still: none of its own events is posted and
nothing makes it act. This fails for a device that is closed while it is attached.
`dtls_event_handler` returns early in a closed module, before `nc_keep_alive_reset` and
before the requests are taken off the connection, so the keep alive goes on ticking and a
request that completes closes the DTLS client again. -/

namespace NabtoDevice

open AttacherView

/-! ## The keep alive of a closed module -/

variable {v v' : AttacherView} {e : AttacherEvent}

namespace AttacherView

theorem TellsClosed.disarmed (h : TellsClosed v v') (hk : v.keepAlive = false) :
    v'.keepAlive = false := by
  cases h with
  | shut => exact hk
  | denied | wait | detach | follow => rfl

theorem Closes.disarmed (h : Closes v v') (hk : v.keepAlive = false) : v'.keepAlive = false := by
  cases h with
  | already | sending => exact hk
  | tells _ ht => exact ht.disarmed hk

theorem Uploads.disarmed (h : Uploads v v') (hk : v.keepAlive = false) : v'.keepAlive = false := by
  cases h with
  | nothing | upload => exact hk

theorem Reads.disarmed {ev : Option NpDtlsCliEvent} (h : Reads v ev v')
    (hm : v.moduleState = .closed) (hk : v.keepAlive = false) : v'.keepAlive = false := by
  cases h with
  | nothing | eof | shut => exact hk
  | closed _ ht => exact ht.disarmed hk
  | refuse _ hc => exact hc.disarmed hk
  | denied _ hne | request _ hne => exact absurd hm hne

theorem ShutsDown.disarmed (h : ShutsDown v v') (hk : v.keepAlive = false) :
    v'.keepAlive = false := by
  cases h with
  | setup | waiting | again | later => exact hk
  | connected _ _ hc => exact hc.disarmed hk

theorem Moves.disarmed (h : Moves v e v')
    (hclose : ∀ env, e = .asyncClose env → v.keepAlive = false)
    (hk : v.moduleState = .closed → v.keepAlive = false) (hm : v'.moduleState = .closed) :
    v'.keepAlive = false := by
  cases h with
  | rest | tick | closeEv | resolvedLate | reattachLate => exact hk hm
  | start => cases hm
  | asyncClose hd => exact hd.disarmed (hclose _ rfl)
  | stop hd => exact hd.disarmed rfl
  | addToken _ hu => exact hu.disarmed (hk (hu.sameModule.1.symm.trans hm))
  | resolveFailed _ hne | reattach _ hne => exact absurd hm hne
  | connect _ hne hr => exact absurd (hr.sameModule.1.symm.trans hm) hne
  | packet _ hr =>
    have hclosed := hr.sameModule.1.symm.trans hm
    exact hr.disarmed hclosed (hk hclosed)
  | dtlsTimer hr =>
    have hclosed := hr.sameModule.1.symm.trans hm
    exact hr.disarmed hclosed (hk hclosed)
  | udpSent _ hr =>
    have hclosed := hr.sameModule.1.symm.trans hm
    exact hr.disarmed hclosed (hk hclosed)
  | udpSentLast _ ht => exact ht.disarmed (hk (ht.sameModule.1.symm.trans hm))
  | fails _ _ hc => exact hc.disarmed (hk (hc.sameModule.1.symm.trans hm))
  | goesOn _ _ _ hne hg => exact absurd (hg.sameModule.1.symm.trans hm) hne
  | synchronizes _ _ _ hu => exact hu.disarmed (hk (hu.sameModule.1.symm.trans hm))
  | timeout harmed hc =>
    have hoff := hk (hc.sameModule.1.symm.trans hm)
    cases harmed.symm.trans hoff

end AttacherView

/-! ## A module at rest -/

/-- Nothing is left that could reach the closed module, packets and the caller apart. -/
structure Quiet (ctx : NcAttachContext) : Prop where
  closed : ctx.moduleState = .closed
  state : ctx.state = .closed
  ssl : ctx.dtls.state = .closing
  timer : ctx.reattachTimer = false
  keepAlive : ctx.keepAlive.armed = false
  requests : ctx.requests = []
  udpSends : ctx.dtls.udpSends = 0
  dnsPending : ctx.dnsPending = 0

variable {ctx ctx' : NcAttachContext}

theorem quiet_step (h : Quiet ctx) (hstep : attacherStep ctx e = some ctx') :
    Quiet ctx' ∧ acts ctx e = false := by
  obtain ⟨hm, hs, hssl, ht, hka, hr, hudp, hdns⟩ := h
  have hclose (ctx₀ : NcAttachContext) (env : AttacherEnv) (hm₀ : ctx₀.moduleState = .closed)
      (hs₀ : ctx₀.state = .closed) : doClose ctx₀ env = { ctx₀ with closeEv := true } := by
    simp [doClose, hm₀, hs₀]
  cases e with
  | start =>
    have heq : ncAttacherStart ctx = ctx := if_pos (by simp [hm])
    rw [attacherStep, heq, Option.some.injEq] at hstep
    exact hstep ▸ ⟨⟨hm, hs, hssl, ht, hka, hr, hudp, hdns⟩, by simp [acts, hm]⟩
  | asyncClose env =>
    rw [attacherStep, ncAttacherAsyncClose, hclose { ctx with closedCb := true } env hm hs,
      Option.some.injEq] at hstep
    exact hstep ▸ ⟨⟨hm, hs, hssl, ht, hka, hr, hudp, hdns⟩, by simp [acts, hs]⟩
  | stop env =>
    rw [attacherStep, ncAttacherStop,
      hclose { ctx with keepAlive := ncKeepAliveStop ctx.keepAlive } env hm hs,
      Option.some.injEq] at hstep
    exact hstep ▸ ⟨⟨hm, hs, hssl, ht, rfl, hr, hudp, hdns⟩, by simp [acts, hs]⟩
  | addToken token inserted env =>
    obtain ⟨sct, -, heq | ⟨hatt, -⟩⟩ := addToken_cases ctx token inserted env
    · rw [attacherStep, heq, Option.some.injEq] at hstep
      exact hstep ▸ ⟨⟨hm, hs, hssl, ht, hka, hr, hudp, hdns⟩, by simp [acts, hs]⟩
    · cases hs.symm.trans hatt
  | packet env =>
    have heq : nmDtlsEventDoOne ctx env = ctx := by simp [nmDtlsEventDoOne, hssl]
    obtain ⟨-, hstep⟩ := Option.ite_none_left_eq_some.mp hstep
    rw [heq, Option.some.injEq] at hstep
    exact hstep ▸ ⟨⟨hm, hs, hssl, ht, hka, hr, hudp, hdns⟩, by simp [acts, hssl]⟩
  | dtlsTimer env =>
    obtain ⟨-, hstep⟩ := Option.ite_none_right_eq_some.mp hstep
    rw [nmDtlsTimedEventDoOne, if_pos (by exact hssl), Option.some.injEq] at hstep
    exact hstep ▸ ⟨⟨hm, hs, hssl, ht, hka, hr, hudp, hdns⟩, by simp [acts, hssl]⟩
  | startSend ret call =>
    obtain ⟨-, hstep⟩ := Option.ite_none_right_eq_some.mp hstep
    rw [nmMbedtlsCliStartSendDeferred, if_pos (by exact hssl), Option.some.injEq] at hstep
    exact hstep ▸ ⟨⟨hm, hs, hssl, ht, hka, hr, hudp, hdns⟩, by simp [acts, hssl]⟩
  | closeEv =>
    obtain ⟨-, rfl⟩ := Machine.of_guard hstep
    exact ⟨⟨hm, hs, hssl, rfl, hka, hr, hudp, hdns⟩, rfl⟩
  -- nothing else is outstanding any more
  | dnsResolved ok env => simp [attacherStep, hdns] at hstep
  | udpSent coalesced env => simp [attacherStep, hudp] at hstep
  | coapSend => simp [attacherStep, hr] at hstep
  | coapDone i res env => simp [attacherStep, coapRequestDone, hr] at hstep
  | keepAlive env => simp [attacherStep, hka] at hstep
  | reattach => simp [attacherStep, ht] at hstep

/-- A module that has not been started does nothing until it is. -/
theorem fresh_still (h : Fresh ctx) (he : e ≠ .start) (hstep : attacherStep ctx e = some ctx') :
    acts ctx e = false := by
  have hcaller := fresh_isOfCaller h hstep
  cases e with
  | start => exact absurd rfl he
  | asyncClose | stop => simp [acts, h.setup]
  | addToken => simp [acts, h.state]
  | closeEv => rfl
  | _ => cases hcaller

/-! ## The closed callback -/

/-- No event of the attacher is left posted when the callback is called, and after it the
attacher does not act. -/
structure ClosesQuietly (a : ClosedAttacher) (e : AttacherEvent) (a' : ClosedAttacher) : Prop where
  settled : callsClosedCb a.ctx e = true → ownEventPending a'.ctx = false
  still : a.called = true → acts a.ctx e = false

/-- The attacher is closed, its DTLS connection has ended, and no CoAP request, UDP send or
resolution is outstanding. -/
def isWoundUp (ctx : NcAttachContext) : Bool :=
  decide (ctx.moduleState = .closed ∧ ctx.state = .closed ∧ ctx.dtls.state = .closing ∧
    ctx.requests = [] ∧ ctx.dtls.udpSends = 0 ∧ ctx.dnsPending = 0)

/-- The keep alive is not armed when the device is closed, the module is wound up or was
never started when the callback is called, and it is not started after that. -/
def closesCleanly (a : ClosedAttacher) : AttacherEvent → Bool
  | .asyncClose _ => !a.ctx.keepAlive.armed
  | .closeEv => !a.ctx.closedCb || decide (a.ctx.moduleState = .setup) || isWoundUp a.ctx
  | .start => !a.called || decide (a.ctx.moduleState ≠ .setup)
  | _ => true

structure Guarded (a : ClosedAttacher) : Prop where
  fresh : a.ctx.moduleState = .setup → Fresh a.ctx
  disarmed : a.ctx.moduleState = .closed → a.ctx.keepAlive.armed = false
  rest : a.called = true → a.ctx.moduleState = .setup ∨ Quiet a.ctx

theorem fresh_of_setup (h : ctx.moduleState = .setup → Fresh ctx)
    (hstep : attacherStep ctx e = some ctx') (hm : ctx'.moduleState = .setup) : Fresh ctx' := by
  have hfresh : Fresh ctx := h ((moves_step hstep).setup_of_setup hm)
  apply fresh_stays hfresh ?_ hstep
  rintro rfl
  rw [attacherStep, ncAttacherStart, if_neg (by simp [hfresh.setup]), Option.some.injEq] at hstep
  rw [← hstep] at hm
  cases hm

theorem quiet_of_woundUp (h : isWoundUp ctx = true)
    (hka : ctx.moduleState = .closed → ctx.keepAlive.armed = false) :
    Quiet (resolveClose { ctx with closeEv := false }) := by
  obtain ⟨hm, hs, hssl, hr, hudp, hdns⟩ := of_decide_eq_true h
  exact ⟨hm, hs, hssl, rfl, hka hm, hr, hudp, hdns⟩

/-- The callback comes when the module is at rest, started or not. -/
theorem rest_after_callback {a : ClosedAttacher} (h : Guarded a) (hclean : closesCleanly a e = true)
    (hstep : attacherStep a.ctx e = some ctx') (hcalls : callsClosedCb a.ctx e = true) :
    ownEventPending ctx' = false ∧ (ctx'.moduleState = .setup ∨ Quiet ctx') := by
  cases e with
  | closeEv =>
    have hcb : a.ctx.closedCb = true := hcalls
    obtain ⟨-, hstep⟩ := Option.ite_none_right_eq_some.mp hstep
    have heq : ctx' = resolveClose { a.ctx with closeEv := false } := (Option.some.inj hstep).symm
    simp only [closesCleanly, hcb, Bool.not_true, Bool.false_or, Bool.or_eq_true,
      decide_eq_true_eq] at hclean
    rcases hclean with hm | hwound
    · have hka := (h.fresh hm).keepAlive
      subst heq
      exact ⟨by simp [ownEventPending, resolveClose, hka], Or.inl hm⟩
    · have hquiet := quiet_of_woundUp hwound h.disarmed
      subst heq
      refine ⟨?_, Or.inr hquiet⟩
      have hka := hquiet.keepAlive
      change a.ctx.keepAlive.armed = false at hka
      simp [ownEventPending, resolveClose, hka]
  | _ => cases hcalls

theorem guarded_step {a a' : ClosedAttacher} (h : Guarded a) (hclean : closesCleanly a e = true)
    (hstep : closedAttacherStep a e = some a') : Guarded a' ∧ ClosesQuietly a e a' := by
  obtain ⟨ctx', hctx, rfl⟩ := Option.map_eq_some_iff.mp hstep
  have hfresh : ctx'.moduleState = .setup → Fresh ctx' := fresh_of_setup h.fresh hctx
  have hdisarmed : ctx'.moduleState = .closed → ctx'.keepAlive.armed = false := by
    apply (moves_step hctx).disarmed
    · rintro env rfl
      have hoff : a.ctx.keepAlive.armed = false := by simpa [closesCleanly] using hclean
      exact hoff
    · exact h.disarmed
  -- once called, the module is at rest and stays so
  have hstill (hcalled : a.called = true) :
      acts a.ctx e = false ∧ (ctx'.moduleState = .setup ∨ Quiet ctx') := by
    rcases h.rest hcalled with hm | hquiet
    · have hne : e ≠ .start := by
        rintro rfl
        simp [closesCleanly, hcalled, hm] at hclean
      exact ⟨fresh_still (h.fresh hm) hne hctx, Or.inl (fresh_stays (h.fresh hm) hne hctx).setup⟩
    · obtain ⟨hquiet', hacts⟩ := quiet_step hquiet hctx
      exact ⟨hacts, Or.inr hquiet'⟩
  refine ⟨⟨hfresh, hdisarmed, fun hcalled => ?_⟩,
    ⟨fun hcalls => ?_, fun hcalled => (hstill hcalled).1⟩⟩
  · rcases Bool.or_eq_true_iff.mp hcalled with hbefore | hcalls
    · exact (hstill hbefore).2
    · exact (rest_after_callback h hclean hctx hcalls).2
  · exact (rest_after_callback h hclean hctx hcalls).1

/-- In a run that closes cleanly, the attacher is still from the closed callback on. -/
theorem still_after_closed_callback {evs : List AttacherEvent}
    (hclean : ∀ t e, closedAttacher.Takes evs t e → closesCleanly t e = true)
    {t t' : ClosedAttacher} {e : AttacherEvent} (ht : closedAttacher.Takes evs t e)
    (hstep : closedAttacherStep t e = some t') : ClosesQuietly t e t' := by
  have hinit : Guarded closedAttacher.init := ⟨fun _ => fresh_init, nofun, nofun⟩
  have hinv := ht.visits.invariant_of_takes Guarded (fun t e => closesCleanly t e = true) hinit
    (fun _ _ _ h hG hs => (guarded_step h hG hs).1) hclean
  exact (guarded_step hinv (hclean t e ht) hstep).2

def closeWaitingRun : List AttacherEvent :=
  [.start, .dnsResolved true { handshake := .error }, .asyncClose {}, .closeEv, .packet {},
    .packet {}]

theorem still_after_closed_callback_waiting :
    closedAttacher.allTaken closesCleanly closedAttacher.init closeWaitingRun = true ∧
      (closedAttacher.exec closeWaitingRun).map (·.called) = some true ∧
      ∀ t e t', closedAttacher.Takes closeWaitingRun t e → closedAttacherStep t e = some t' →
        ClosesQuietly t e t' := by
  have hall : closedAttacher.allTaken closesCleanly closedAttacher.init closeWaitingRun = true := by
    decide +kernel
  refine ⟨hall, by decide +kernel, fun t e t' ht hs => ?_⟩
  exact still_after_closed_callback (fun t e ht => Machine.takes_of_allTaken hall ht) ht hs

def closeAttached : List AttacherEvent :=
  .start :: attachRun ++ [.asyncClose { closeNotify := true }, .udpSent 0 {}]

/-- The callback is called with the keep alive armed, and a tick follows. -/
theorem keep_alive_ticks_after_closed_callback :
    ∃ t t' t'', closedAttacher.Run closeAttached t ∧ closedAttacherStep t .closeEv = some t' ∧
      closedAttacherStep t' (.keepAlive {}) = some t'' ∧
      ¬ ClosesQuietly t .closeEv t' ∧ ¬ ClosesQuietly t' (.keepAlive {}) t'' := by
  refine ⟨_, _, _, Machine.run_of_exec rfl, rfl, rfl, fun h => ?_, fun h => ?_⟩
  · have hpending := h.settled (by decide +kernel)
    revert hpending
    decide +kernel
  · have hacts := h.still (by decide +kernel)
    cases hacts

end NabtoDevice
