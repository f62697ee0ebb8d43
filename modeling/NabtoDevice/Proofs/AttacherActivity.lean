import NabtoDevice.Proofs.Attacher

/-! At most one attach activity is in progress: the reattach timer is armed exactly in the two
waiting states, a name is resolved only in the state `DNS`, and `nm_dtls_connect` is called
only when the connection before it has ended. This holds in the runs in which no event of the
DTLS client comes while a name is being resolved, none but its own handshake completes, and
the close event of a module that was closed before it was started does not come while the
timer runs. The other runs exist: the completion of a UDP send left over from a connection
that has ended makes the DTLS client deliver `CLOSED` once more. -/

namespace NabtoDevice

open AttacherView

/-- A failed request of the attach procedure closes the connection with a record that is still
being sent, so that `CLOSED` does not come at once. -/
def closesLater (ctx : NcAttachContext) : AttacherEvent → Bool
  | .coapDone _ _ env =>
    (mbedtlsSslCloseNotify { ctx.dtls with state := .closing } env.closeNotify).sending
  | _ => false

/-- The DTLS event comes in a state that waits for it, and the close event does not cancel the
reattach timer. -/
def isTimely (ctx : NcAttachContext) (e : AttacherEvent) : Bool :=
  ((deliveredEvent ctx e).all (isAwaited ctx.state) || closesLater ctx e) &&
    !(decide (e = .closeEv) && ctx.reattachTimer)

/-! ## While the module runs -/

variable {v v' : AttacherView} {e : AttacherEvent}

namespace AttacherView

/-- The timer is armed in the waiting states, and a connection is left open only in the states
that have one. -/
structure Engaged (v : AttacherView) : Prop where
  armed : v.state = .retryWait ∨ v.state = .accessDeniedWait → v.timer = true
  ended : v.state.isConnected = false → v.connects = 0 ∨ v.told = true

theorem Engaged.tellsClosed (h : v.Engaged) (hm : v.moduleState ≠ .closed) (ht : TellsClosed v v') :
    v'.Engaged := by
  cases ht with
  | shut hc => exact absurd hc hm
  | denied => exact ⟨h.armed, fun _ => Or.inr rfl⟩
  | wait | detach => exact ⟨fun _ => rfl, fun _ => Or.inr rfl⟩
  | follow => exact ⟨nofun, fun _ => Or.inr rfl⟩

theorem Engaged.closes (h : v.Engaged) (hm : v.moduleState ≠ .closed) (hc : Closes v v') :
    v'.Engaged := by
  have hclosing : Engaged { v with ssl := .closing } := ⟨h.armed, h.ended⟩
  cases hc with
  | already => exact h
  | sending => exact hclosing
  | tells _ ht => exact hclosing.tellsClosed hm ht

theorem Engaged.uploads (h : v.Engaged) (hu : Uploads v v') : v'.Engaged := by
  cases hu with
  | nothing => exact h
  | upload => exact ⟨h.armed, h.ended⟩

theorem Engaged.goesOn (h : v.Engaged) (hm : v.moduleState ≠ .closed) (hg : GoesOn v v') :
    v'.Engaged := by
  cases hg with
  | fail hc => exact h.closes hm hc
  | upload | request => exact ⟨h.armed, h.ended⟩
  | redirect hc =>
    have hred : Engaged { v with state := .redirect } := ⟨nofun, nofun⟩
    exact hred.closes hm hc
  | attach hu =>
    have hattached : Engaged
        { v with state := .attached, keepAlive := true, notified := v.notified ++ [.attached] } :=
      ⟨nofun, nofun⟩
    exact hattached.uploads hu

theorem told_of_inReset (h : InReset v v') (hm : v.moduleState ≠ .closed) (htold : v.told = true) :
    v'.told = true := by
  cases h with
  | nothing | completes => exact htold
  | fails _ hc =>
    cases hc with
    | already | sending => exact htold
    | tells _ ht =>
      cases ht with
      | shut hc => exact absurd hc hm
      | denied | wait | detach | follow => rfl

theorem Engaged.reads {ev : Option NpDtlsCliEvent} (h : v.Engaged) (hm : v.moduleState ≠ .closed)
    (hr : Reads v ev v') : v'.Engaged := by
  have hssl (ssl : SslState) : Engaged { v with ssl := ssl } := ⟨h.armed, h.ended⟩
  cases hr with
  | nothing => exact h
  | eof => exact hssl .closing
  | closed _ ht => exact (hssl .closing).tellsClosed hm ht
  | shut _ hc => exact absurd hc hm
  | denied _ _ _ hreset =>
    have htold := told_of_inReset hreset hm rfl
    exact ⟨fun _ => rfl, fun _ => Or.inr htold⟩
  | refuse _ hc => exact (hssl .data).closes hm hc
  | request => exact ⟨h.armed, h.ended⟩

theorem Engaged.moves (h : v.Engaged) (ho : v.Orderly) (hm : v.moduleState = .running)
    (hoff : e = .closeEv → v.timer = false) (hmove : Moves v e v')
    (hrun : v'.moduleState = .running) : v'.Engaged := by
  have hopen : v.moduleState ≠ .closed := by simp [hm]
  have hsetup : v.moduleState ≠ .setup := by simp [hm]
  cases hmove with
  | rest | tick => exact h
  | start hs => exact absurd hs hsetup
  | asyncClose hd => exact absurd hrun (hd.not_running hsetup)
  | stop hd => exact absurd hrun (hd.not_running hsetup)
  | addToken _ hu => exact h.uploads hu
  | resolvedLate _ hc => exact absurd hc hopen
  | resolveFailed hp =>
    have hdns : v.state.isConnected = false := by rw [(ho.resolving hp).1]; rfl
    exact ⟨fun _ => rfl, fun _ => h.ended hdns⟩
  | connect _ _ hr =>
    have hconnected : Engaged { v with
        dnsPending := v.dnsPending - 1, state := .dtlsAttachRequest, ssl := .connecting
        connects := v.connects + 1, told := false } := ⟨nofun, nofun⟩
    exact hconnected.reads hopen hr
  | packet _ hr => exact h.reads hopen hr
  | dtlsTimer hr => exact h.reads hopen hr
  | udpSent _ hr => exact h.reads hopen hr
  | udpSentLast _ ht => exact h.tellsClosed hopen ht
  | @fails i _ _ r _ _ _ hc =>
    have hdone : (v.complete i r).Engaged := ⟨h.armed, h.ended⟩
    exact hdone.closes hopen hc
  | @goesOn i _ _ r _ _ _ _ _ hg =>
    have hdone : (v.complete i r).Engaged := ⟨h.armed, h.ended⟩
    exact hdone.goesOn hopen hg
  | @synchronizes i _ _ r _ _ _ _ hu =>
    have hdone : (v.complete i r).Engaged := ⟨h.armed, h.ended⟩
    exact hdone.uploads hu
  | @timeout _ _ _ armed hc =>
    have harmed : Engaged { v with keepAlive := armed } := ⟨h.armed, h.ended⟩
    exact harmed.closes hopen hc
  | reattach ht =>
    have hwait : v.state.isConnected = false := by
      rcases ho.timer ht with hw | hw <;> rw [hw] <;> rfl
    exact ⟨nofun, fun _ => h.ended hwait⟩
  | reattachLate _ hc => exact absurd hc hopen
  | closeEv => exact ⟨fun hs => absurd ((hoff rfl).symm.trans (h.armed hs)) (by simp), h.ended⟩

/-! ## After the module has been closed -/

structure ShutInOrder (v : AttacherView) : Prop where
  timer : v.timer = false
  dns : v.dnsPending ≤ if v.state = .dns then 1 else 0
  keepAlive : v.keepAlive = true → v.state ≠ .dns
  waiting : v.state ≠ .retryWait ∧ v.state ≠ .accessDeniedWait

theorem ShutInOrder.dns_idle (h : v.ShutInOrder) (hs : v.state ≠ .dns) : v.dnsPending = 0 := by
  have hdns := h.dns
  rw [if_neg hs] at hdns
  omega

theorem shutInOrder_closed (hs : v.state = .closed) (ht : v.timer = false)
    (hdns : v.dnsPending = 0) : v.ShutInOrder :=
  ⟨ht, by simp [hdns], fun _ => by simp [hs], by simp [hs]⟩

theorem ShutInOrder.tellsClosed (h : v.ShutInOrder) (hm : v.moduleState = .closed)
    (hdns : v.state ≠ .dns) (ht : TellsClosed v v') : v'.ShutInOrder := by
  cases ht with
  | shut => exact shutInOrder_closed rfl h.timer (h.dns_idle hdns)
  | denied hne | wait hne | detach hne | follow hne => exact absurd hm hne

theorem ShutInOrder.closes (h : v.ShutInOrder) (hm : v.moduleState = .closed)
    (hdns : v.ssl ≠ .closing → v.state ≠ .dns) (hc : Closes v v') : v'.ShutInOrder := by
  have hclosing : ShutInOrder { v with ssl := .closing } := ⟨h.timer, h.dns, h.keepAlive, h.waiting⟩
  cases hc with
  | already => exact h
  | sending => exact hclosing
  | tells hopen ht => exact hclosing.tellsClosed hm (hdns hopen) ht

theorem ShutInOrder.reads {ev : Option NpDtlsCliEvent} (h : v.ShutInOrder)
    (hm : v.moduleState = .closed)
    (hawaited : ∀ event ∈ ev, isAwaited v.state event = true) (hr : Reads v ev v') :
    v'.ShutInOrder := by
  have hssl (ssl : SslState) : ShutInOrder { v with ssl := ssl } :=
    ⟨h.timer, h.dns, h.keepAlive, h.waiting⟩
  cases hr with
  | nothing => exact h
  | eof => exact hssl .closing
  | closed _ ht =>
    have hdns : v.state ≠ .dns := by simpa [isAwaited] using hawaited _ rfl
    exact (hssl .closing).tellsClosed hm hdns ht
  | shut =>
    have hdns : v.state ≠ .dns := by simpa [isAwaited] using hawaited _ rfl
    exact shutInOrder_closed rfl h.timer (h.dns_idle hdns)
  | refuse _ hc =>
    have hs : v.state = .dtlsAttachRequest := by simpa [isAwaited] using hawaited _ rfl
    exact (hssl .data).closes hm (fun _ => by simp [hs]) hc
  | denied _ hne | request _ hne => exact absurd hm hne

theorem ShutInOrder.shutsDown (h : v.ShutInOrder) (hd : ShutsDown v v') : v'.ShutInOrder := by
  have hclosed : ShutInOrder { v with moduleState := .closed } :=
    ⟨h.timer, h.dns, h.keepAlive, h.waiting⟩
  cases hd with
  | setup => exact ⟨h.timer, h.dns, h.keepAlive, h.waiting⟩
  | waiting _ hs =>
    rcases hs with hs | hs
    · exact absurd hs h.waiting.1
    · exact absurd hs h.waiting.2
  | again _ hs => exact shutInOrder_closed hs h.timer (h.dns_idle (by simp [hs]))
  | connected _ hs hc =>
    refine hclosed.closes rfl (fun _ => ?_) hc
    rcases hs with hs | hs <;> simp [hs]
  | later => exact hclosed

theorem Orderly.shutsDown (ho : v.Orderly) (hm : v.moduleState = .running) (hd : ShutsDown v v') :
    v'.moduleState = .closed ∧ v'.ShutInOrder := by
  have hka : v.keepAlive = true → v.state ≠ .dns := fun hk => by simp [ho.keepAlive hk]
  -- out of the waiting states the timer is off
  have hquiet (hs : v.state ≠ .retryWait ∧ v.state ≠ .accessDeniedWait) :
      ShutInOrder { v with moduleState := .closed } := ⟨ho.timer_off hs.1 hs.2, ho.dns, hka, hs⟩
  cases hd with
  | setup hs => cases hm.symm.trans hs
  | waiting _ hs =>
    have hdns : v.state ≠ .dns := by rcases hs with hs | hs <;> simp [hs]
    exact ⟨rfl, shutInOrder_closed rfl rfl (ho.dns_idle hdns)⟩
  | again _ hs =>
    have hclosed := hquiet (by simp [hs])
    exact ⟨rfl, hclosed.timer, hclosed.dns, hclosed.keepAlive, hclosed.waiting⟩
  | connected _ hs hc =>
    refine ⟨hc.sameModule.1, (hquiet ?_).closes rfl (fun _ => ?_) hc⟩ <;> rcases hs with hs | hs <;>
      simp [hs]
  | later _ hs => exact ⟨rfl, hquiet (by rcases hs with hs | hs <;> simp [hs])⟩

end AttacherView

/-! ## Along a run -/

variable {ctx : NcAttachContext}

theorem shutInOrder_moves (hm : ctx.moduleState = .closed) (h : (view ctx).ShutInOrder)
    (hawaits : Awaits ctx e) (hmove : Moves (view ctx) e v') : v'.ShutInOrder := by
  have hsame (cb armed ev : Bool) (harmed : armed = true → ctx.keepAlive.armed = true)
      (requests : List CoapClientRequest) (sctCallback : Option NcAttacherSctCallback) :
      ShutInOrder { view ctx with
        closedCb := cb, keepAlive := armed, closeEv := ev, requests := requests
        sctCallback := sctCallback } :=
    ⟨h.timer, h.dns, fun hk => h.keepAlive (harmed hk), h.waiting⟩
  cases hmove with
  | rest | tick => exact h
  | start hs => cases hm.symm.trans hs
  | asyncClose hd => exact (hsame true _ ctx.closeEv id _ _).shutsDown hd
  | stop hd => exact (hsame ctx.closedCb false ctx.closeEv nofun _ _).shutsDown hd
  | addToken _ hu =>
    cases hu with
    | nothing => exact h
    | upload => exact hsame _ _ _ id _ _
  | resolvedLate hp =>
    have hdns := h.dns
    refine shutInOrder_closed rfl h.timer ?_
    show (view ctx).dnsPending - 1 = 0
    split_ifs at hdns <;> omega
  | resolveFailed _ hne | connect _ hne | goesOn _ _ _ hne | reattach _ hne => exact absurd hm hne
  | packet _ hr => exact h.reads hm hawaits hr
  | dtlsTimer hr => exact h.reads hm hawaits hr
  | udpSent hssl hr => exact h.reads hm (awaited_of_udpSent hawaits hssl) hr
  | udpSentLast hssl ht => exact h.tellsClosed hm (not_dns_of_udpSent hawaits hssl) ht
  | @fails i _ _ r _ hi ha hc =>
    have hdone : ShutInOrder ((view ctx).complete i r) := hsame _ _ _ id _ _
    exact hdone.closes hm (not_dns_of_coapDone hawaits hi ha) hc
  | synchronizes hi _ _ hu =>
    cases hu with
    | nothing | upload => exact hsame _ _ _ id _ _
  | @timeout _ _ hk armed hc =>
    have hoff := hsame ctx.closedCb armed ctx.closeEv
      (fun _ => hk) ctx.requests ctx.sctContext.callback
    exact hoff.closes hm (fun _ => h.keepAlive hk) hc
  | reattachLate ht => cases ht.symm.trans h.timer
  | closeEv => exact ⟨rfl, h.dns, h.keepAlive, h.waiting⟩

variable {ctx' : NcAttachContext}

/-- A request that completes out of time and whose failure the DTLS client reports later. -/
theorem view_of_closesLater (hstep : attacherStep ctx e = some ctx')
    (hlater : closesLater ctx e = true) (hawaits : ¬ Awaits ctx e) :
    ctx.state = .dns ∧ ∃ i r, ctx.requests[i]? = some r ∧
      (ofAttach ctx.sctContext.callback r = true ∧ r.removed = false ∧ ctx.moduleState ≠ .closed ∨
        view ctx' = { (view ctx).complete i r with ssl := .closing }) := by
  cases e with
  | coapDone i res env =>
    have hstep : coapRequestDone ctx i res env = some ctx' := hstep
    obtain ⟨r, hi, ctx₁, hc, hcase⟩ := coapRequestDone_cases hstep
    have hdone : ofAttach ctx.sctContext.callback r = true ∧ ctx.dtls.state ≠ .closing ∧
        ctx.state = .dns := by
      by_contra hnot
      refine hawaits fun event hevent => ?_
      simp only [deliveredEvent, hi, Option.mem_def, Option.ite_none_right_eq_some,
        Option.some.injEq] at hevent
      obtain ⟨⟨ha, hopen⟩, rfl⟩ := hevent
      simpa [isAwaited] using fun hs => hnot ⟨ha, hopen, hs⟩
    obtain ⟨ha, hopen, hs⟩ := hdone
    refine ⟨hs, i, r, hi, ?_⟩
    rcases hcase with ⟨-, rfl⟩ | ⟨-, hr, hm, -⟩ | ⟨ha', -⟩
    · right
      have hsending : (mbedtlsSslCloseNotify { ctx₁.dtls with state := .closing }
          env.closeNotify).sending = true := by rw [hc.dtls]; exact hlater
      have hclosing : coapAttachFailed ctx₁ env = { ctx₁ with
          dtls := mbedtlsSslCloseNotify { ctx₁.dtls with state := .closing } env.closeNotify } := by
        simp [coapAttachFailed, dtlsCliClose, hc.dtls ▸ hopen, hsending]
      rw [hclosing, ← hc.view]
      simp [view]
    · exact Or.inl ⟨ha, hr, hm⟩
    · cases ha.symm.trans ha'
  | _ => cases hlater

inductive ActivityInv (ctx : NcAttachContext) : Prop
  | fresh (h : Fresh ctx)
  | runs (hm : ctx.moduleState = .running) (ho : (view ctx).Orderly) (h : (view ctx).Engaged)
  | closed (hm : ctx.moduleState = .closed) (h : (view ctx).ShutInOrder)

theorem engaged_start (h : Fresh ctx) : (view (ncAttacherStart ctx)).Engaged := by
  have hs : (view ctx).state = .dns := h.state
  rw [view_start h]
  exact ⟨by simp [hs], fun _ => Or.inl h.connects⟩

theorem ActivityInv.step (h : ActivityInv ctx) (htimely : isTimely ctx e = true)
    (hstep : attacherStep ctx e = some ctx') : ActivityInv ctx' := by
  obtain ⟨hdelivered, hcloseEv⟩ := Bool.and_eq_true_iff.mp htimely
  have hoff : e = .closeEv → ctx.reattachTimer = false := by
    simpa [imp_iff_not_or] using hcloseEv
  have hlater : Awaits ctx e ∨ ¬ Awaits ctx e ∧ closesLater ctx e = true := by
    by_cases hawaits : Awaits ctx e
    · exact Or.inl hawaits
    · refine Or.inr ⟨hawaits, (Bool.or_eq_true_iff.mp hdelivered).resolve_left fun hall => ?_⟩
      exact hawaits fun event hevent => by simpa [Option.mem_def.mp hevent] using hall
  have hmove := moves_step hstep
  cases h with
  | fresh h =>
    by_cases he : e = .start
    · subst he
      obtain rfl : ncAttacherStart ctx = ctx' := Option.some.inj hstep
      have hm := congrArg AttacherView.moduleState (view_start h)
      exact .runs hm (orderly_start h) (engaged_start h)
    · exact .fresh (fresh_stays h he hstep)
  | runs hm ho h =>
    rcases hlater with hawaits | ⟨hnot, hlater⟩
    · rcases orderly_moves hm ho hawaits hmove with ⟨hm', ho'⟩ | ⟨cb, armed, harmed, hd⟩
      · exact .runs hm' ho' (h.moves ho hm hoff hmove hm')
      · have hstopped : Orderly { view ctx with closedCb := cb, keepAlive := armed } :=
          ⟨ho.timer, ho.dns, ho.live, ho.single, ho.sct, ho.redirect,
            fun hk => ho.keepAlive (harmed hk)⟩
        obtain ⟨hm', h'⟩ := hstopped.shutsDown hm hd
        exact .closed hm' h'
    · obtain ⟨hs, i, r, hi, ⟨ha, hr, -⟩ | hview⟩ := view_of_closesLater hstep hlater hnot
      · have hatt : ctx.state = .dtlsAttachRequest := (complete_of_live ho hi hr ha).2.1
        cases hs.symm.trans hatt
      · have hclosing := (ho.complete hi).withSsl .closing (by simp) fun _ => rfl
        have hm' : ctx'.moduleState = .running := (congrArg AttacherView.moduleState hview).trans hm
        refine .runs hm' (hview ▸ hclosing) ?_
        rw [hview]
        exact ⟨h.armed, h.ended⟩
  | closed hm h =>
    refine .closed (hmove.windsDown hm).1 ?_
    rcases hlater with hawaits | ⟨hnot, hlater⟩
    · exact shutInOrder_moves hm h hawaits hmove
    · obtain ⟨hs, i, r, hi, ⟨-, -, hne⟩ | hview⟩ := view_of_closesLater hstep hlater hnot
      · exact absurd hm hne
      · rw [hview]
        exact ⟨h.timer, h.dns, h.keepAlive, h.waiting⟩

theorem ActivityInv.timer_iff (h : ActivityInv ctx) :
    ctx.reattachTimer = true ↔ ctx.state = .retryWait ∨ ctx.state = .accessDeniedWait := by
  cases h with
  | fresh h => simp [h.timer, h.state]
  | runs _ ho h => exact ⟨ho.timer, h.armed⟩
  | closed _ h =>
    have hoff : ctx.reattachTimer = false := h.timer
    have hwait : ctx.state ≠ .retryWait ∧ ctx.state ≠ .accessDeniedWait := h.waiting
    simp [hoff, hwait]

theorem ActivityInv.dns (h : ActivityInv ctx) :
    ctx.dnsPending ≤ if ctx.state = .dns then 1 else 0 := by
  cases h with
  | fresh h => simp [h.dnsPending]
  | runs _ ho _ => exact ho.dns
  | closed _ h => exact h.dns

theorem AttacherView.ShutsDown.connects_eq (h : ShutsDown v v') : v'.connects = v.connects := by
  cases h with
  | setup | waiting | again | later => rfl
  | connected _ _ hc => exact hc.sameModule.2.2

/-- Only the answer of the resolver to a module that is not closed leads to a connect. -/
theorem AttacherView.Moves.connects_eq (h : Moves v e v') :
    v'.connects = v.connects ∨ 0 < v.dnsPending ∧ v.moduleState ≠ .closed := by
  cases h with
  | rest | start | tick | closeEv | resolvedLate | resolveFailed | reattach | reattachLate =>
    exact Or.inl rfl
  | connect hp hm => exact Or.inr ⟨hp, hm⟩
  | asyncClose hd =>
    have heq := hd.connects_eq
    exact Or.inl heq
  | stop hd =>
    have heq := hd.connects_eq
    exact Or.inl heq
  | addToken _ hu => exact Or.inl hu.sameModule.2.2
  | packet _ hr => exact Or.inl hr.sameModule.2.2
  | dtlsTimer hr => exact Or.inl hr.sameModule.2.2
  | udpSent _ hr => exact Or.inl hr.sameModule.2.2
  | udpSentLast _ ht => exact Or.inl ht.sameModule.2.2
  | fails _ _ hc => exact Or.inl hc.sameModule.2.2
  | goesOn _ _ _ _ hg => exact Or.inl hg.sameModule.2.2
  | synchronizes _ _ _ hu => exact Or.inl hu.sameModule.2.2
  | timeout _ hc => exact Or.inl hc.sameModule.2.2

theorem ActivityInv.ended (h : ActivityInv ctx) (hstep : attacherStep ctx e = some ctx')
    (hconnect : ctx'.dtlsConnects ≠ ctx.dtlsConnects) :
    ctx.dtlsConnects = 0 ∨ ∃ event ∈ ctx.dtlsEvents, event.isTerminal = true := by
  have hpending := (moves_step hstep).connects_eq.resolve_left hconnect
  obtain ⟨hp, hm⟩ := hpending
  have hp : 0 < ctx.dnsPending := hp
  cases h with
  | fresh h =>
    have hidle := h.dnsPending
    omega
  | runs _ ho h =>
    have hs : (view ctx).state = .dns := (ho.resolving hp).1
    have hend := h.ended (by rw [hs]; rfl)
    exact hend.imp_right List.any_eq_true.mp
  | closed hc _ => exact absurd hc hm

/-- In a run whose events all come in time, the reattach timer is armed exactly in the waiting
states, at most one name is being resolved and only in the state `DNS`, and `nm_dtls_connect`
is called only if it is the first call or the connection of the call before has ended. -/
theorem one_attach_activity {evs : List AttacherEvent}
    (htimely : ∀ t e, attacher.Takes evs t e → isTimely t e = true) :
    (∀ t, attacher.Visits evs t →
      (t.reattachTimer = true ↔ t.state = .retryWait ∨ t.state = .accessDeniedWait) ∧
        t.dnsPending ≤ if t.state = .dns then 1 else 0) ∧
      ∀ t e t', attacher.Takes evs t e → attacherStep t e = some t' →
        t'.dtlsConnects ≠ t.dtlsConnects →
        t.dtlsConnects = 0 ∨ ∃ event ∈ t.dtlsEvents, event.isTerminal = true := by
  have hinv (t : NcAttachContext) (hv : attacher.Visits evs t) : ActivityInv t :=
    hv.invariant_of_takes ActivityInv (fun t e => isTimely t e = true) (.fresh fresh_init)
      (fun _ _ _ h ht hs => h.step ht hs) htimely
  refine ⟨fun t hv => ⟨(hinv t hv).timer_iff, (hinv t hv).dns⟩,
    fun t e t' htakes hstep hconnect => ?_⟩
  exact (hinv t htakes.visits).ended hstep hconnect

def denyThenCloseRun : List AttacherEvent :=
  accessDeniedRun ++ [.asyncClose { closeNotify := true }]

theorem one_attach_activity_denied :
    attacher.allTaken isTimely attacher.init denyThenCloseRun = true ∧
      (attacher.exec denyThenCloseRun).map (·.dtlsConnects) = some 2 ∧
      ∀ t, attacher.Visits denyThenCloseRun t →
        (t.reattachTimer = true ↔ t.state = .retryWait ∨ t.state = .accessDeniedWait) := by
  have hall : attacher.allTaken isTimely attacher.init denyThenCloseRun = true := by decide +kernel
  have hone := one_attach_activity fun t e ht => Machine.takes_of_allTaken hall ht
  exact ⟨hall, by decide +kernel, fun t hv => (hone.1 t hv).1⟩

/-- The handshake fails while the last record is being sent, and the completion of that send
comes when the attacher already resolves the name again. -/
def lateCompletionRun : List AttacherEvent :=
  [.start, .dnsResolved true { handshake := .error, call := ⟨true, false⟩ }, .reattach,
    .udpSent 0 {}]

/-- The timer is armed while the name is still being resolved. -/
theorem late_completion_doubles_activity :
    ∃ ctx, attacher.Run lateCompletionRun ctx ∧ ctx.state = .retryWait ∧ ctx.reattachTimer = true ∧
      ctx.dnsPending = 1 :=
  ⟨_, Machine.run_of_exec rfl, by decide +kernel⟩

end NabtoDevice
