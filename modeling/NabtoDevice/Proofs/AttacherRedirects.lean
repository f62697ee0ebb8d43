import NabtoDevice.Sanity.AttacherRedirects
import NabtoDevice.Proofs.AttacherClosing
import NabtoDevice.Proofs.AttacherActivity
import NabtoDevice.Proofs.AttacherNames

/-! How many redirects the attacher follows. A redirect is counted when the response to the
attach start request comes and judged when the DTLS connection has been closed. In between the
connection owes its `CLOSED` event, and only after the fifth redirect the attacher goes back to
the configured host. Two kinds of runs are left out. The DTLS client is in the state
`CONNECTING` before it has been connected, so that a packet can make it deliver an event which
no connection stands for, and a second resolution is started. And a peer that closes the
connection before its redirect is handled leaves the attacher in `REDIRECT`. -/

namespace NabtoDevice

open AttacherView

/-! ## One connection at a time -/

variable {v v' : AttacherView}

namespace AttacherView

/-- A connection that has not delivered its terminal event is in use, and before the first
connect nothing has been requested. -/
structure Paced (v : AttacherView) : Prop where
  ended : v.state.isConnected = false → v.connects = 0 ∨ v.told = true
  connecting : v.ssl = .connecting → v.connects = 0 ∨ v.state = .dtlsAttachRequest
  unconnected : v.connects = 0 →
    v.told = false ∧ v.state.isConnected = false ∧ v.requests = []

theorem paced_of_told (htold : v.told = true) (hssl : v.ssl ≠ .connecting)
    (hconnects : v.connects ≠ 0) : v.Paced :=
  ⟨fun _ => Or.inr htold, fun h => absurd h hssl, fun h => absurd h hconnects⟩

theorem paced_of_connected (hs : v.state.isConnected = true) (hssl : v.ssl ≠ .connecting)
    (hconnects : v.connects ≠ 0) : v.Paced :=
  ⟨fun h => absurd (hs.symm.trans h) (by simp), fun h => absurd h hssl, fun h => absurd h hconnects⟩

theorem TellsClosed.paced (h : TellsClosed v v') (hm : v.moduleState ≠ .closed)
    (hssl : v.ssl = .closing) (hconnects : v.connects ≠ 0) : v'.Paced := by
  have hshaken : v.ssl ≠ .connecting := by simp [hssl]
  cases h with
  | shut hc => exact absurd hc hm
  | denied | wait | detach | follow => exact paced_of_told rfl hshaken hconnects

theorem Paced.withSsl (h : v.Paced) {ssl : SslState} (hssl : ssl ≠ .connecting) :
    Paced { v with ssl := ssl } :=
  ⟨h.ended, fun hc => absurd hc hssl, h.unconnected⟩

theorem Paced.closes (h : v.Paced) (hm : v.moduleState ≠ .closed) (hconnects : v.connects ≠ 0)
    (hc : Closes v v') : v'.Paced := by
  cases hc with
  | already => exact h
  | sending => exact h.withSsl (by simp)
  | tells _ ht => exact ht.paced hm rfl hconnects

theorem Paced.withRequests (h : v.Paced) (hconnects : v.connects ≠ 0)
    (requests : List CoapClientRequest)
    (cb : Option NcAttacherSctCallback) :
    Paced { v with requests := requests, sctCallback := cb } :=
  ⟨h.ended, h.connecting, fun h0 => absurd h0 hconnects⟩

theorem Paced.uploads (h : v.Paced) (hconnects : v.connects ≠ 0) (hu : Uploads v v') :
    v'.Paced := by
  cases hu with
  | nothing => exact h
  | upload => exact h.withRequests hconnects _ _

theorem Paced.goesOn (h : v.Paced) (hm : v.moduleState ≠ .closed) (hssl : v.ssl ≠ .connecting)
    (hconnects : v.connects ≠ 0) (hg : GoesOn v v') : v'.Paced := by
  cases hg with
  | fail hc => exact h.closes hm hconnects hc
  | upload | request => exact h.withRequests hconnects _ _
  | redirect hc =>
    have hred : Paced { v with state := .redirect } := paced_of_connected rfl hssl hconnects
    exact hred.closes hm hconnects hc
  | attach hu =>
    have hattached : Paced
        { v with state := .attached, keepAlive := true, notified := v.notified ++ [.attached] } :=
      paced_of_connected rfl hssl hconnects
    exact hattached.uploads hconnects hu

theorem Paced.reads {ev : Option NpDtlsCliEvent} (h : v.Paced) (hm : v.moduleState ≠ .closed)
    (hquiet : v.connects = 0 → ev = none) (hr : Reads v ev v') : v'.Paced := by
  have hconnects {event : NpDtlsCliEvent} (hev : ev = some event) : v.connects ≠ 0 := fun h0 => by
    rw [hquiet h0] at hev
    cases hev
  cases hr with
  | nothing => exact h
  | eof => exact h.withSsl (by simp)
  | closed _ ht => exact ht.paced hm rfl (hconnects rfl)
  | shut _ hc => exact absurd hc hm
  | @denied _ _ ssl hssl w hreset =>
    obtain ⟨-, -, -, hshaken⟩ := hreset.allRemoved hm (drop_allRemoved _) rfl hssl
    have hsame : w.connects = v.connects := hreset.sameModule.2.2
    have htold := told_of_inReset hreset hm rfl
    exact paced_of_told htold hshaken (hsame ▸ hconnects rfl)
  | refuse _ hc =>
    have hdata : Paced { v with ssl := .data } := h.withSsl (by simp)
    exact hdata.closes hm (hconnects rfl) hc
  | request =>
    have hdata : Paced { v with ssl := .data } := h.withSsl (by simp)
    exact hdata.withRequests (hconnects rfl) _ v.sctCallback

end AttacherView

def isConnectedFirst (ctx : NcAttachContext) (e : AttacherEvent) : Bool :=
  decide (ctx.dtlsConnects ≠ 0) || (deliveredEvent ctx e).isNone

variable {ctx : NcAttachContext} {e : AttacherEvent}

theorem paced_moves (hm : ctx.moduleState = .running) (ho : (view ctx).Orderly)
    (ha : (view ctx).Accounted)
    (h : (view ctx).Paced) (hfirst : isConnectedFirst ctx e = true) (hmove : Moves (view ctx) e v')
    (hrun : v'.moduleState = .running) : v'.Paced := by
  have hopen : (view ctx).moduleState ≠ .closed := by simp [view, hm]
  have hsetup : (view ctx).moduleState ≠ .setup := by simp [view, hm]
  have hquiet : (view ctx).connects = 0 → deliveredEvent ctx e = none := fun h0 => by
    have hzero : ctx.dtlsConnects = 0 := h0
    simpa [isConnectedFirst, hzero] using hfirst
  have hrequest {i : ℕ} {r : CoapClientRequest} (hi : (view ctx).requests[i]? = some r) :
      (view ctx).connects ≠ 0 := fun h0 => by
    rw [(h.unconnected h0).2.2] at hi
    cases hi
  have hdone {i : ℕ} {r : CoapClientRequest} (hi : (view ctx).requests[i]? = some r) :
      ((view ctx).complete i r).Paced := h.withRequests (hrequest hi) _ _
  -- without a connection the DTLS client is past its handshake or was never connected
  have hidle (hs : (view ctx).state.isConnected = false) (hc : (view ctx).ssl = .connecting) :
      (view ctx).connects = 0 := by
    rcases h.ended hs with h0 | htold
    · exact h0
    · exact absurd hc (ha.shaken htold)
  cases hmove with
  | rest | tick => exact h
  | start hs => exact absurd hs hsetup
  | asyncClose hd => exact absurd hrun (hd.not_running hsetup)
  | stop hd => exact absurd hrun (hd.not_running hsetup)
  | addToken hs hu =>
    have hconnects : (view ctx).connects ≠ 0 := fun h0 => by
      have := (h.unconnected h0).2.1
      rw [hs] at this
      cases this
    exact h.uploads hconnects hu
  | resolvedLate _ hc => exact absurd hc hopen
  | resolveFailed hp =>
    have hs : (view ctx).state.isConnected = false := by rw [(ho.resolving hp).1]; rfl
    exact ⟨fun _ => h.ended hs, fun hc => Or.inl (hidle hs hc),
      fun h0 => ⟨(h.unconnected h0).1, rfl, (h.unconnected h0).2.2⟩⟩
  | connect _ _ hr =>
    have hconnected : Paced { view ctx with
        dnsPending := (view ctx).dnsPending - 1, state := .dtlsAttachRequest, ssl := .connecting
        connects := (view ctx).connects + 1, told := false } :=
      ⟨fun hended => Bool.noConfusion hended, fun _ => Or.inr rfl, fun h0 => by cases h0⟩
    exact hconnected.reads hopen (fun h0 => by cases h0) hr
  | packet _ hr => exact h.reads hopen hquiet hr
  | dtlsTimer hr => exact h.reads hopen hquiet hr
  | udpSent hssl hr =>
    refine h.reads hopen (fun h0 => ?_) hr
    have hnone := hquiet h0
    rwa [deliveredEvent, if_neg (show ctx.dtls.state ≠ .closing from hssl)] at hnone
  | udpSentLast hssl ht =>
    refine ht.paced hopen hssl fun h0 => ?_
    have hnone := hquiet h0
    rw [deliveredEvent, if_pos (show ctx.dtls.state = .closing from hssl)] at hnone
    cases hnone
  | fails hi _ hc =>
    exact (hdone hi).closes hopen (hrequest hi) hc
  | goesOn hi hof hr _ hg =>
    obtain ⟨-, -, hssl⟩ := complete_of_live ho hi hr hof
    exact (hdone hi).goesOn hopen hssl (hrequest hi) hg
  | synchronizes hi _ _ hu =>
    exact (hdone hi).uploads (hrequest hi) hu
  | @timeout _ _ hk armed hc =>
    have hconnects : (view ctx).connects ≠ 0 := fun h0 => by
      have := (h.unconnected h0).2.1
      rw [ho.keepAlive hk] at this
      cases this
    have harmed : Paced { view ctx with keepAlive := armed } :=
      ⟨h.ended, h.connecting, h.unconnected⟩
    exact harmed.closes hopen hconnects hc
  | reattach ht =>
    have hs : (view ctx).state.isConnected = false := by
      rcases ho.timer ht with hw | hw <;> rw [hw] <;> rfl
    exact ⟨fun _ => h.ended hs, fun hc => Or.inl (hidle hs hc),
      fun h0 => ⟨(h.unconnected h0).1, rfl, (h.unconnected h0).2.2⟩⟩
  | reattachLate _ hc => exact absurd hc hopen
  | closeEv => exact ⟨h.ended, h.connecting, h.unconnected⟩

theorem connecting_of_delivered (h : deliveredEvent ctx e = some .handshakeComplete) :
    ctx.dtls.state = .connecting := by
  cases e with
  | packet | dtlsTimer => exact connecting_of_handshakeComplete h
  | udpSent coalesced env =>
    rw [deliveredEvent] at h
    split_ifs at h
    · cases h
    · exact connecting_of_handshakeComplete h
  | coapDone i res env =>
    rw [deliveredEvent] at h
    cases hi : ctx.requests[i]? with
    | none | some => simp [hi] at h
  | _ => cases h

variable {ctx' : NcAttachContext}

/-- With one terminal event for each connection the attacher waits for what the DTLS client
delivers. Where it has no connection a failed request may still close the DTLS client. -/
theorem awaits_or_later (hm : ctx.moduleState = .running) (ha : (view ctx).Accounted)
    (h : (view ctx).Paced)
    (hfirst : isConnectedFirst ctx e = true) (hstep : attacherStep ctx e = some ctx')
    (hone : ctx'.dtlsEvents.countP NpDtlsCliEvent.isTerminal ≤ 1) :
    Awaits ctx e ∧ (ctx.state.isConnected = false → deliveredEvent ctx e = none) ∨
      ∃ i r, ctx.requests[i]? = some r ∧
        view ctx' = { (view ctx).complete i r with ssl := .closing } := by
  by_cases htold : (view ctx).told = true
  · have hrem := ha.removed htold (by simp [view, hm])
    rcases quiet_of_told hstep htold hrem (ha.shaken htold) hone with hnone | hlater
    · exact Or.inl ⟨fun event hevent => by simp [hnone] at hevent, fun _ => hnone⟩
    · exact Or.inr hlater
  left
  by_cases h0 : ctx.dtlsConnects = 0
  · have hnone : deliveredEvent ctx e = none := by simpa [isConnectedFirst, h0] using hfirst
    exact ⟨fun event hevent => by simp [hnone] at hevent, fun _ => hnone⟩
  · have hs : ctx.state.isConnected = true := by
      by_contra hs
      rcases h.ended (Bool.eq_false_of_not_eq_true hs) with hzero | htold'
      · exact h0 hzero
      · exact htold htold'
    refine ⟨fun event hevent => ?_, fun hs' => by cases hs.symm.trans hs'⟩
    cases event with
    | handshakeComplete =>
      have hstate := (h.connecting (connecting_of_delivered hevent)).resolve_left h0
      exact decide_eq_true hstate
    | closed | accessDenied =>
      refine decide_eq_true fun hdns => ?_
      rw [hdns] at hs
      cases hs

theorem orderly_step (hm : ctx.moduleState = .running) (ho : (view ctx).Orderly)
    (ha : (view ctx).Accounted)
    (h : (view ctx).Paced) (hfirst : isConnectedFirst ctx e = true)
    (hstep : attacherStep ctx e = some ctx')
    (hone : ctx'.dtlsEvents.countP NpDtlsCliEvent.isTerminal ≤ 1) :
    ctx'.moduleState = .running ∧ (view ctx').Orderly ∨ ctx'.moduleState = .closed := by
  rcases awaits_or_later hm ha h hfirst hstep hone with ⟨hawaits, -⟩ | ⟨i, r, hi, hview⟩
  · rcases orderly_moves hm ho hawaits (moves_step hstep) with hrun | ⟨cb, armed, -, hd⟩
    · exact Or.inl hrun
    · exact Or.inr (hd.windsDown (by simp [view, hm])).1
  · have hmodule : ctx'.moduleState = ctx.moduleState := congrArg AttacherView.moduleState hview
    refine Or.inl ⟨hmodule.trans hm, ?_⟩
    rw [hview]
    exact (ho.complete hi).withSsl .closing (by simp) fun _ => rfl

/-! ## Waiting after a redirect -/

/-- The attacher stays in `RETRY_WAIT` until the timer runs out. -/
theorem retryWait_moves (hm : ctx.moduleState = .running) (ho : (view ctx).Orderly)
    (hs : ctx.state = .retryWait)
    (hquiet : deliveredEvent ctx e = none) (he : e ≠ .reattach) (hmove : Moves (view ctx) e v')
    (hrun : v'.moduleState = .running) : v'.state = .retryWait := by
  have hopen : (view ctx).moduleState ≠ .closed := by simp [view, hm]
  have hsetup : (view ctx).moduleState ≠ .setup := by simp [view, hm]
  have hv : (view ctx).state = .retryWait := hs
  have hidle : ¬ 0 < (view ctx).dnsPending := by
    rw [ho.dns_idle (by simp [hv])]
    exact lt_irrefl 0
  -- a client that delivers nothing reads without an effect on the state
  have hreads {v'' : AttacherView} (hr : Reads (view ctx) none v'') : v''.state = .retryWait := by
    cases hr with
    | nothing | eof => exact hv
  cases hmove with
  | rest | tick | closeEv => exact hv
  | start hset => exact absurd hset hsetup
  | asyncClose hd => exact absurd hrun (hd.not_running hsetup)
  | stop hd => exact absurd hrun (hd.not_running hsetup)
  | addToken hatt => cases hv.symm.trans hatt
  | resolvedLate hp | resolveFailed hp | connect hp => exact absurd hp hidle
  | packet _ hr => exact hreads (hquiet ▸ hr)
  | dtlsTimer hr => exact hreads (hquiet ▸ hr)
  | udpSent hssl hr =>
    rw [deliveredEvent, if_neg (show ctx.dtls.state ≠ .closing from hssl)] at hquiet
    exact hreads (hquiet ▸ hr)
  | udpSentLast hssl =>
    rw [deliveredEvent, if_pos (show ctx.dtls.state = .closing from hssl)] at hquiet
    cases hquiet
  | @fails i _ _ r _ hi hof hc =>
    have hclosing : ctx.dtls.state = .closing := by
      by_contra hne
      simp [deliveredEvent, show ctx.requests[i]? = some r from hi,
        show ofAttach ctx.sctContext.callback r = true from hof, hne] at hquiet
    cases hc with
    | already | sending => exact hv
    | tells hne => exact absurd hclosing hne
  | goesOn hi hof hr =>
    have hstate := (complete_of_live ho hi hr hof).2.1
    cases hv.symm.trans hstate
  | synchronizes _ _ _ hu =>
    cases hu with
    | nothing | upload => exact hv
  | timeout hk => exact absurd (hv.symm.trans (ho.keepAlive hk)) (by simp)
  | reattach | reattachLate => exact absurd rfl he

theorem dtlsEventClosed_redirect (hm : ctx.moduleState ≠ .closed) (hs : ctx.state = .redirect) :
    (dtlsEventClosed ctx).state =
      if ctx.redirectAttempts ≥ maxRedirectFollow then .retryWait else .dns := by
  have hgive := (congrArg AttacherView.state (view_giveUp_closed ctx)).trans hs
  have hattempts := (evolves_giveUp (recordDtlsEvent ctx .closed)).keeps.attempts
  have heq : dtlsEventClosed ctx = dtlsClosedSwitch (giveUp (recordDtlsEvent ctx .closed)) :=
    if_neg hm
  rw [heq, show ctx.redirectAttempts = _ from hattempts.symm]
  generalize giveUp (recordDtlsEvent ctx .closed) = lost at hgive
  have hstate : lost.state = .redirect := hgive
  unfold dtlsClosedSwitch
  rw [hstate]
  dsimp only
  split_ifs <;> rfl

theorem udpSent_redirect {coalesced : ℕ} {env : AttacherEnv} (hm : ctx.moduleState = .running)
    (hs : ctx.state = .redirect) (hclosing : ctx.dtls.state = .closing)
    (hstep : attacherStep ctx (.udpSent coalesced env) = some ctx') :
    ctx'.state = if ctx.redirectAttempts ≥ maxRedirectFollow then .retryWait else .dns := by
  obtain ⟨-, rfl⟩ := Machine.of_guard hstep
  rw [nmDtlsUdpSendCallback, if_pos hclosing]
  refine dtlsEventClosed_redirect ?_ hs
  simp [hm]

/-- In `REDIRECT` the attacher waits for the completion of the last UDP send. -/
theorem redirect_step (hm : ctx.moduleState = .running) (ho : (view ctx).Orderly)
    (hs : ctx.state = .redirect)
    (hstep : attacherStep ctx e = some ctx') (hrun : ctx'.moduleState = .running) :
    ctx'.state = .redirect ∧ ctx'.dtls.sending = ctx.dtls.sending ∨
      (∃ coalesced env, e = .udpSent coalesced env) ∧
        ctx'.state = if ctx.redirectAttempts ≥ maxRedirectFollow then .retryWait else .dns := by
  have hv : (view ctx).state = .redirect := hs
  have hclosing : ctx.dtls.state = .closing := ho.redirect hv
  have hsetup : (view ctx).moduleState ≠ .setup := by simp [view, hm]
  cases attacherCase_of_step hstep with
  | start hm' => exact absurd hm' hsetup
  | startRefused | timerClosing | coapBusy | closeEv => exact Or.inl ⟨hs, rfl⟩
  | asyncClose env =>
    have hd := shutsDown_doClose { ctx with closedCb := true } env
    exact absurd hrun (hd.not_running hsetup)
  | stop env =>
    have hd := shutsDown_doClose { ctx with keepAlive := ncKeepAliveStop ctx.keepAlive } env
    exact absurd hrun (hd.not_running hsetup)
  | addToken token inserted env =>
    obtain ⟨sct, -, heq | ⟨hatt, -⟩⟩ := addToken_cases ctx token inserted env
    · rw [heq]
      exact Or.inl ⟨hs, rfl⟩
    · cases hs.symm.trans hatt
  | resolvedLate _ _ hp | resolveFailed _ hp | resolved _ hp =>
    have hidle : ctx.dnsPending = 0 := ho.dns_idle (by simp [hv])
    omega
  | packet env =>
    rw [nmDtlsEventDoOne, hclosing]
    exact Or.inl ⟨hs, rfl⟩
  | timer _ hopen | udpSent _ _ hopen => exact absurd hclosing hopen
  | udpSentLast coalesced env =>
    exact Or.inr ⟨⟨coalesced, env, rfl⟩, udpSent_redirect hm hs hclosing hstep⟩
  | startSend ret call =>
    rw [nmMbedtlsCliStartSendDeferred, if_pos hclosing]
    exact Or.inl ⟨hs, rfl⟩
  | coapSend =>
    have hsend : asyncSendData ctx.dtls .coap = ctx.dtls := if_pos hclosing
    rw [hsend]
    exact Or.inl ⟨hs, rfl⟩
  | @coapDone i res env _ hdone =>
    obtain ⟨r, hi, ctx₁, hc, hcase⟩ := coapRequestDone_cases hdone
    have hstate : ctx₁.state = .redirect := (congrArg AttacherView.state hc.view).trans hs
    have hsending : ctx₁.dtls.sending = ctx.dtls.sending := by rw [hc.dtls]
    left
    rcases hcase with ⟨-, rfl⟩ | ⟨hof, hr, -, -⟩ | ⟨-, rfl | ⟨-, rfl⟩⟩
    · have hnop : coapAttachFailed ctx₁ env = ctx₁ := by
        simp [coapAttachFailed, dtlsCliClose, hc.dtls, hclosing]
      rw [hnop]
      exact ⟨hstate, hsending⟩
    · have hrequest := (complete_of_live ho hi hr hof).2.1
      cases hv.symm.trans hrequest
    · exact ⟨hstate, hsending⟩
    · unfold sendSctRequest ncAttacherSctUpload
      dsimp only
      split_ifs <;> exact ⟨hstate, hsending⟩
  | keepAlive env hk => exact absurd (hv.symm.trans (ho.keepAlive hk)) (by simp)
  | reattachLate ht | reattach ht =>
    have hoff := ho.timer_off (by simp [hv]) (by simp [hv])
    cases hoff.symm.trans ht

/-- A redirect comes in the attach procedure. -/
theorem state_of_redirects (ho : (view ctx).Orderly) (h : redirects ctx e = true) :
    ctx.state = .dtlsAttachRequest := by
  cases e with
  | coapDone i res env =>
    cases res with
    | none => cases h
    | some res =>
      cases hi : ctx.requests[i]? with
      | none => simp [redirects, hi] at h
      | some r =>
        simp only [redirects, hi, Bool.and_eq_true, decide_eq_true_eq, Bool.not_eq_true'] at h
        obtain ⟨⟨⟨⟨⟨hk, hrem⟩, -⟩, -⟩, -⟩, -⟩ := h
        have hof : ofAttach (view ctx).sctCallback r = true := by simp [ofAttach, hk]
        exact (complete_of_live ho hi hrem hof).2.1
  | _ => cases h

def isOpenRedirect (ctx : NcAttachContext) (e : AttacherEvent) : Bool :=
  !redirects ctx e || decide (ctx.dtls.state ≠ .closing)

theorem dtlsCliClose_open (ctx : NcAttachContext) (h : ctx.dtls.state ≠ .closing)
    (env : AttacherEnv) :
    (∃ d : NpDtlsCli, d.sending = true ∧ dtlsCliClose ctx env = { ctx with dtls := d }) ∨
      ∃ d : NpDtlsCli, dtlsCliClose ctx env = dtlsEventClosed { ctx with dtls := d } := by
  rw [dtlsCliClose, if_pos h]
  dsimp only
  split_ifs with hsending
  · exact Or.inr ⟨_, rfl⟩
  · exact Or.inl ⟨_, by simpa using hsending, rfl⟩

theorem redirected_step (hm : ctx.moduleState = .running) (hr : redirects ctx e = true)
    (hopen : isOpenRedirect ctx e = true) (hstep : attacherStep ctx e = some ctx') :
    ctx'.redirectAttempts = ctx.redirectAttempts + 1 ∧
      (ctx'.state = .redirect ∧ ctx'.dtls.sending = true ∨
        ctx'.state =
          if ctx.redirectAttempts + 1 ≥ maxRedirectFollow then .retryWait else .dns) := by
  have hssl : ctx.dtls.state ≠ .closing := by simpa [isOpenRedirect, hr] using hopen
  obtain ⟨i, res, env, -, rfl⟩ := step_redirects hstep hr
  refine ⟨(evolves_dtlsCliClose .refl env).keeps.attempts, ?_⟩
  set counted : NcAttachContext := { ctx with
    requests := ctx.requests.eraseIdx i, startCallback := false, state := .redirect
    redirectAttempts := ctx.redirectAttempts + 1 } with hcounted
  have hrunning : counted.moduleState ≠ .closed := by simp [hcounted, hm]
  rcases dtlsCliClose_open counted hssl env with ⟨d, hd, heq⟩ | ⟨d, heq⟩
  · rw [heq]
    exact Or.inl ⟨rfl, hd⟩
  · rw [heq]
    exact Or.inr (dtlsEventClosed_redirect hrunning rfl)

/-! ## The counter -/

/-- The counter stops at its limit, where the attacher waits for the connection to be closed or
for the timer. -/
structure Bounded (ctx : NcAttachContext) : Prop where
  attempts : ctx.redirectAttempts ≤ maxRedirectFollow
  last : ctx.redirectAttempts = maxRedirectFollow → ctx.state = .retryWait ∨ ctx.state = .redirect
  pending : ctx.state = .redirect → ctx.dtls.sending = true
  counted : ctx.state = .redirect → 0 < ctx.redirectAttempts.toNat

theorem attempts_toNat_succ {n : UInt8} (h : n < maxRedirectFollow) :
    (n + 1).toNat = n.toNat + 1 := by
  have hlt : n.toNat < 5 := UInt8.lt_iff_toNat_lt.mp h
  rw [UInt8.toNat_add]
  exact Nat.mod_eq_of_lt (by simp; omega)

theorem attempts_succ_le {n : UInt8} (h : n < maxRedirectFollow) : n + 1 ≤ maxRedirectFollow := by
  have hlt : n.toNat < 5 := UInt8.lt_iff_toNat_lt.mp h
  rw [UInt8.le_iff_toNat_le, attempts_toNat_succ h]
  exact hlt

theorem Bounded.lt_of_redirects (h : Bounded ctx) (ho : (view ctx).Orderly)
    (hr : redirects ctx e = true) : ctx.redirectAttempts < maxRedirectFollow := by
  have hs := state_of_redirects ho hr
  refine UInt8.lt_of_le_of_ne h.attempts fun heq => ?_
  rcases h.last heq with hwait | hred
  · cases hs.symm.trans hwait
  · cases hs.symm.trans hred

theorem Bounded.step (h : Bounded ctx) (hm : ctx.moduleState = .running) (ho : (view ctx).Orderly)
    (ha : (view ctx).Accounted) (hp : (view ctx).Paced) (hfirst : isConnectedFirst ctx e = true)
    (hopen : isOpenRedirect ctx e = true) (hstep : attacherStep ctx e = some ctx')
    (hone : ctx'.dtlsEvents.countP NpDtlsCliEvent.isTerminal ≤ 1)
    (hrun : ctx'.moduleState = .running) : Bounded ctx' := by
  have hsetup : ctx.moduleState ≠ .setup := by simp [hm]
  by_cases hr : redirects ctx e = true
  · have hlt := h.lt_of_redirects ho hr
    obtain ⟨hattempts, hcase⟩ := redirected_step hm hr hopen hstep
    have hpos : 0 < ctx'.redirectAttempts.toNat := by rw [hattempts, attempts_toNat_succ hlt]; omega
    have hle : ctx'.redirectAttempts ≤ maxRedirectFollow := hattempts ▸ attempts_succ_le hlt
    rcases hcase with ⟨hs, hsending⟩ | hs
    · exact ⟨hle, fun _ => Or.inr hs, fun _ => hsending, fun _ => hpos⟩
    · refine ⟨hle, fun hmax => ?_, fun hred => ?_, fun _ => hpos⟩
      · left
        rw [hs, ← hattempts, hmax, if_pos (UInt8.le_refl _)]
      · rw [hred] at hs
        split_ifs at hs
  rw [Bool.not_eq_true] at hr
  by_cases he : e = .reattach
  · subst he
    obtain ⟨-, rfl⟩ := Machine.of_guard hstep
    rw [reattach, if_neg (by simp [hm])]
    have hdns : (handleStateChange { ctx with
        reattachTimer := false, state := .dns, redirectAttempts := 0 }).state ≠ .redirect := by
      simp [handleStateChange, dnsStartResolve]
    refine ⟨by simp [handleStateChange, dnsStartResolve, maxRedirectFollow], fun hmax => ?_,
      fun hs => absurd hs hdns, fun hs => absurd hs hdns⟩
    exact absurd hmax (by simp [handleStateChange, dnsStartResolve, maxRedirectFollow])
  have hattempts := redirectAttempts_step hsetup hstep hr he
  refine ⟨hattempts ▸ h.attempts, fun hmax => ?_, fun hs => ?_, fun hs => ?_⟩
  · rw [hattempts] at hmax
    rcases h.last hmax with hs | hs
    · left
      rcases awaits_or_later hm ha hp hfirst hstep hone with ⟨-, hquiet⟩ | ⟨i, r, -, hview⟩
      · have hnone := hquiet (by rw [hs]; rfl)
        exact retryWait_moves hm ho hs hnone he (moves_step hstep) hrun
      · exact (congrArg AttacherView.state hview).trans hs
    · rcases redirect_step hm ho hs hstep hrun with ⟨hred, -⟩ | ⟨-, hwait⟩
      · exact Or.inr hred
      · rw [hmax, if_pos (UInt8.le_refl _)] at hwait
        exact Or.inl hwait
  · have hred := redirect_entered hsetup hstep hr he hs
    rcases redirect_step hm ho hred hstep hrun with ⟨-, hsending⟩ | ⟨-, hleft⟩
    · exact hsending.trans (h.pending hred)
    · rw [hs] at hleft
      split_ifs at hleft
  · rw [hattempts]
    exact h.counted (redirect_entered hsetup hstep hr he hs)

/-! ## Runs -/

inductive RedirectInv (ctx : NcAttachContext) : Prop
  | fresh (h : Fresh ctx) (hzero : ctx.redirectAttempts = 0)
  | runs (hm : ctx.moduleState = .running) (ho : (view ctx).Orderly) (hp : (view ctx).Paced)
      (hf : InFlight ctx.dtls) (hb : Bounded ctx)
  | closed (hm : ctx.moduleState = .closed) (hle : ctx.redirectAttempts ≤ maxRedirectFollow)

theorem RedirectInv.attempts (h : RedirectInv ctx) : ctx.redirectAttempts ≤ maxRedirectFollow := by
  cases h with
  | fresh _ hzero => simp [hzero, maxRedirectFollow]
  | runs _ _ _ _ hb => exact hb.attempts
  | closed _ hle => exact hle

theorem attempts_fresh (h : Fresh ctx) (hstep : attacherStep ctx e = some ctx') :
    ctx'.redirectAttempts = ctx.redirectAttempts := by
  have hcaller := fresh_isOfCaller h hstep
  cases e with
  | start =>
    rw [← Option.some.inj hstep, ncAttacherStart, if_neg (by simp [h.setup])]
    simp [handleStateChange, dnsStartResolve]
  | asyncClose env =>
    rw [← Option.some.inj hstep, ncAttacherAsyncClose, doClose, if_pos h.setup]
  | stop env =>
    rw [← Option.some.inj hstep, ncAttacherStop, doClose, if_pos h.setup]
  | addToken token inserted env =>
    obtain ⟨sct, -, heq | ⟨hatt, -⟩⟩ := addToken_cases ctx token inserted env
    · rw [attacherStep, heq] at hstep
      rw [← Option.some.inj hstep]
    · cases h.state.symm.trans hatt
  | closeEv =>
    obtain ⟨-, rfl⟩ := Machine.of_guard hstep
    rfl
  | _ => cases hcaller

theorem redirectInv_start (h : Fresh ctx) (ha : (view ctx).Accounted)
    (hzero : ctx.redirectAttempts = 0) : RedirectInv (ncAttacherStart ctx) := by
  have hview := view_start h
  have hdtls : (ncAttacherStart ctx).dtls = nmMbedtlsCliCreate := by
    rw [ncAttacherStart, if_neg (by simp [h.setup])]
    simp [handleStateChange, dnsStartResolve, h.dtls]
  have hattempts : (ncAttacherStart ctx).redirectAttempts = 0 :=
    (attempts_fresh (e := .start) h rfl).trans hzero
  have hstate : (ncAttacherStart ctx).state = .dns :=
    (congrArg AttacherView.state hview).trans h.state
  refine .runs (congrArg AttacherView.moduleState hview) (orderly_start h) ?_ ?_ ?_
  · rw [hview]
    have hconnects : (view ctx).connects = 0 := h.connects
    refine ⟨fun _ => Or.inl hconnects, fun _ => Or.inl hconnects, fun _ => ⟨?_, ?_, h.requests⟩⟩
    · exact Bool.eq_false_of_not_eq_true fun htold => ha.shaken htold (by rw [view, h.dtls]; rfl)
    · simp [view, h.state, NcAttacherAttachState.isConnected]
  · rw [hdtls]
    exact fun hclosing => absurd hclosing (by simp [nmMbedtlsCliCreate])
  · refine ⟨by simp [hattempts, maxRedirectFollow], fun hmax => ?_, fun hs => ?_, fun hs => ?_⟩
    · exact absurd (hattempts.symm.trans hmax) (by decide)
    · cases hstate.symm.trans hs
    · cases hstate.symm.trans hs

theorem attempts_closed (hm : ctx.moduleState = .closed) (hstep : attacherStep ctx e = some ctx') :
    ctx'.redirectAttempts = ctx.redirectAttempts := by
  by_cases he : e = .reattach
  · subst he
    obtain ⟨-, rfl⟩ := Machine.of_guard hstep
    rw [reattach, if_pos hm]
    rfl
  · have hnone : redirects ctx e = false := by
      by_contra hr
      obtain ⟨i, res, env, rfl, -⟩ := step_redirects hstep (by simpa using hr)
      cases res with
      | none => simp [redirects] at hr
      | some res =>
        simp only [redirects, hm] at hr
        split at hr <;> simp at hr
    exact redirectAttempts_step (by simp [hm]) hstep hnone he

theorem redirectInv_step (h : RedirectInv ctx) (ha : (view ctx).Accounted)
    (hfirst : isConnectedFirst ctx e = true)
    (hopen : isOpenRedirect ctx e = true) (hstep : attacherStep ctx e = some ctx')
    (hone : ctx'.dtlsEvents.countP NpDtlsCliEvent.isTerminal ≤ 1) : RedirectInv ctx' := by
  cases h with
  | fresh hfresh hzero =>
    by_cases he : e = .start
    · subst he
      rw [← Option.some.inj hstep]
      exact redirectInv_start hfresh ha hzero
    · exact .fresh (fresh_stays hfresh he hstep) ((attempts_fresh hfresh hstep).trans hzero)
  | runs hm ho hp hf hb =>
    rcases orderly_step hm ho ha hp hfirst hstep hone with ⟨hrun, ho'⟩ | hclosed
    · exact .runs hrun ho' (paced_moves hm ho ha hp hfirst (moves_step hstep) hrun)
        (inFlight_step (by simp [hm]) hstep hf) (hb.step hm ho ha hp hfirst hopen hstep hone hrun)
    · refine .closed hclosed ?_
      by_cases hr : redirects ctx e = true
      · rw [(redirected_step hm hr hopen hstep).1]
        exact attempts_succ_le (hb.lt_of_redirects ho hr)
      by_cases he : e = .reattach
      · subst he
        obtain ⟨-, rfl⟩ := Machine.of_guard hstep
        rw [reattach, if_neg (by simp [hm])]
        simp [handleStateChange, dnsStartResolve, maxRedirectFollow]
      · rw [redirectAttempts_step (by simp [hm]) hstep (by simpa using hr) he]
        exact hb.attempts
  | closed hm hle =>
    have hclosed : ctx'.moduleState = .closed := ((moves_step hstep).windsDown hm).1
    exact .closed hclosed (attempts_closed hm hstep ▸ hle)

/-! ## Resolutions -/

/-- A resolution that `reattach` does not start follows a redirect, below the limit. -/
theorem follow_step (hm : ctx.moduleState = .running) (hstep : attacherStep ctx e = some ctx')
    (he : e ≠ .reattach) (hres : 0 < resolvesStarted ctx ctx' e) :
    0 < ctx'.dnsPending ∧ ctx'.redirectAttempts < maxRedirectFollow ∧
      (redirects ctx e = true ∨ ctx.state = .redirect) := by
  have hsetup : ctx.moduleState ≠ .setup := by simp [hm]
  by_cases hr : redirects ctx e = true
  · obtain ⟨i, res, env, rfl, rfl⟩ := step_redirects hstep hr
    simp only [resolvesStarted] at hres
    have hkeeps : Keeps _ (dtlsCliClose
      { ctx with
        requests := ctx.requests.eraseIdx i, startCallback := false, state := .redirect
        redirectAttempts :=
          ctx.redirectAttempts + 1 } env) := (evolves_dtlsCliClose .refl env).keeps
    refine ⟨by omega, ?_, Or.inl hr⟩
    rcases hkeeps.resolves with hle | ⟨-, hlt⟩
    · have hsame : _ ≤ ctx.dnsPending := hle
      omega
    · rw [hkeeps.attempts]
      exact hlt
  rw [Bool.not_eq_true] at hr
  by_cases hdns : ∃ ok env, e = .dnsResolved ok env
  · obtain ⟨ok, env, rfl⟩ := hdns
    obtain ⟨hp, hstep⟩ := Option.ite_none_right_eq_some.mp hstep
    suffices hle : ctx'.dnsPending ≤ ctx.dnsPending - 1 by
      simp only [resolvesStarted] at hres
      omega
    rw [← Option.some.inj hstep, dnsResolvedCallback]
    split_ifs
    · exact le_rfl
    · exact le_rfl
    · rcases (keeps_doOne _ env).resolves with hle | ⟨hs, -⟩
      · exact hle
      · cases hs
  · have hother : ∀ ok env, e ≠ .dnsResolved ok env := fun ok env heq => hdns ⟨ok, env, heq⟩
    have hpending : ctx.dnsPending < ctx'.dnsPending := by
      cases e with
      | dnsResolved ok env => exact absurd rfl (hother ok env)
      | _ => simp only [resolvesStarted] at hres; omega
    refine ⟨by omega, ?_⟩
    rcases (keeps_step hsetup hstep hr he hother).resolves with hle | ⟨hs, hlt⟩
    · omega
    · rw [redirectAttempts_step hsetup hstep hr he]
      exact ⟨hlt, Or.inr hs⟩

def NamedAttacher.event (a : NamedAttacher) : NamedAttacherEvent → AttacherEvent
  | .start _ _ => .start
  | .redirect i code root env =>
    .coapDone i (some (redirectResponse code (handleRedirect a root).2)) env
  | .dnsResolved ok _ env => .dnsResolved ok env
  | .reattach => .reattach
  | .other e => e

variable {a b : NamedAttacher}

theorem attacherAdvance_ctx {a₁ : NamedAttacher} (h : attacherAdvance a₁ e = some b)
    (hctx : a₁.ctx = a.ctx) (hresolutions : a₁.resolutions = a.resolutions) :
    attacherStep a.ctx e = some b.ctx ∧
      b.resolutions.length = a.resolutions.length + resolvesStarted a.ctx b.ctx e := by
  obtain ⟨ctx', hstep, rfl⟩ := Option.map_eq_some_iff.mp h
  rw [← hctx, ← hresolutions]
  exact ⟨hstep, by simp⟩

theorem handleRedirect_ctx (a : NamedAttacher) (root : RedirectPayload) :
    (handleRedirect a root).1.ctx = a.ctx ∧
      (handleRedirect a root).1.resolutions = a.resolutions := by
  unfold handleRedirect
  split
  · split <;> exact ⟨rfl, rfl⟩
  · exact ⟨rfl, rfl⟩

theorem namedAttacherStep_ctx {e : NamedAttacherEvent} (h : namedAttacherStep a e = some b) :
    attacherStep a.ctx (a.event e) = some b.ctx ∧
      b.resolutions.length = a.resolutions.length + resolvesStarted a.ctx b.ctx (a.event e) := by
  cases e with
  | start hostname serverPort =>
    simp only [namedAttacherStep] at h
    split_ifs at h <;> exact attacherAdvance_ctx h rfl rfl
  | redirect i code root env =>
    obtain ⟨hctx, hresolutions⟩ := handleRedirect_ctx a root
    simp only [namedAttacherStep] at h
    split_ifs at h
    · exact attacherAdvance_ctx h hctx hresolutions
    · exact attacherAdvance_ctx h rfl rfl
  | dnsResolved ok ips env =>
    simp only [namedAttacherStep] at h
    split_ifs at h <;> exact attacherAdvance_ctx h rfl rfl
  | reattach =>
    simp only [namedAttacherStep] at h
    split_ifs at h <;> exact attacherAdvance_ctx h rfl rfl
  | other e =>
    obtain ⟨-, h⟩ := Option.ite_none_right_eq_some.mp h
    exact attacherAdvance_ctx h rfl rfl

theorem event_reattach {e : NamedAttacherEvent} (h : namedAttacherStep a e = some b)
    (he : e ≠ .reattach) : a.event e ≠ .reattach := by
  cases e with
  | reattach => exact absurd rfl he
  | other e =>
    obtain ⟨hkeeps, -⟩ := Option.ite_none_right_eq_some.mp h
    rintro rfl
    cases hkeeps
  | start | redirect | dnsResolved => simp [NamedAttacher.event]

def isStart : NamedAttacherEvent → Bool
  | .start _ _ => true
  | _ => false

theorem event_start {e : NamedAttacherEvent} (h : namedAttacherStep a e = some b) :
    a.event e = .start ↔ isStart e = true := by
  cases e with
  | other e =>
    obtain ⟨hkeeps, -⟩ := Option.ite_none_right_eq_some.mp h
    cases e with
    | start => cases hkeeps
    | _ => simp [NamedAttacher.event, isStart]
  | start | redirect | dnsResolved | reattach => simp [NamedAttacher.event, isStart]

/-- The step starts a resolution that neither `nc_attacher_start` nor `reattach` asks for. -/
def followsRedirect (a : NamedAttacher) (e : NamedAttacherEvent) : Bool :=
  !isStart e && decide (e ≠ .reattach) &&
    (namedAttacherStep a e).any fun b => decide (a.resolutions.length < b.resolutions.length)

theorem followsRedirect_iff {e : NamedAttacherEvent} (h : namedAttacherStep a e = some b) :
    followsRedirect a e = true ↔
      isStart e = false ∧ e ≠ .reattach ∧ 0 < resolvesStarted a.ctx b.ctx (a.event e) := by
  have hlength := (namedAttacherStep_ctx h).2
  simp [followsRedirect, h, hlength, and_assoc]

/-- `n` resolutions have followed a redirect, and the counter knows of all of them. -/
structure Followed (n : ℕ) (ctx : NcAttachContext) : Prop where
  few : n ≤ 4
  fresh : ctx.moduleState = .setup → n = 0
  counted : ctx.moduleState = .running →
    n + (if ctx.state = .redirect then 1 else 0) ≤ ctx.redirectAttempts.toNat

variable {n : ℕ}

theorem Followed.fresh_step {e : NamedAttacherEvent} (h : Followed n a.ctx) (hfresh : Fresh a.ctx)
    (hs : namedAttacherStep a e = some b) : Followed (n + (followsRedirect a e).toNat) b.ctx := by
  have hstep := (namedAttacherStep_ctx hs).1
  have hzero := h.fresh hfresh.setup
  have hnone : followsRedirect a e = false := by
    rw [Bool.eq_false_iff, Ne, followsRedirect_iff hs]
    rintro ⟨hstart, -, hres⟩
    have hstays := fresh_stays hfresh ((event_start hs).not.mpr (by simp [hstart])) hstep
    have hcaller := fresh_isOfCaller hfresh hstep
    cases hevent : a.event e with
    | dnsResolved => rw [hevent] at hcaller; cases hcaller
    | _ => simp [hevent, resolvesStarted, hstays.dnsPending] at hres
  rw [hnone, hzero]
  by_cases he : a.event e = .start
  · rw [he] at hstep
    have hstate : b.ctx.state = .dns := by
      rw [← Option.some.inj hstep]
      exact (congrArg AttacherView.state (view_start hfresh)).trans hfresh.state
    exact ⟨by simp, fun _ => rfl, fun _ => by simp [hstate]⟩
  · have hsetup := (fresh_stays hfresh he hstep).setup
    exact ⟨by simp, fun _ => rfl, fun hrun => by cases hsetup.symm.trans hrun⟩

theorem Followed.runs_step {e : NamedAttacherEvent} (h : Followed n a.ctx)
    (hm : a.ctx.moduleState = .running)
    (ho : (view a.ctx).Orderly) (hb : Bounded a.ctx)
    (hopen : isOpenRedirect a.ctx (a.event e) = true)
    (hs : namedAttacherStep a e = some b) (he : e ≠ .reattach)
    (hafter : b.ctx.moduleState = .running ∧ (view b.ctx).Orderly ∨ b.ctx.moduleState = .closed) :
    Followed (n + (followsRedirect a e).toNat) b.ctx := by
  have hsetup : a.ctx.moduleState ≠ .setup := by simp [hm]
  have hsetup' : b.ctx.moduleState ≠ .setup := by rcases hafter with ⟨hr, -⟩ | hc <;> simp [*]
  obtain ⟨hstep, -⟩ := namedAttacherStep_ctx hs
  have hreattach := event_reattach hs he
  have hcounted := h.counted hm
  -- the counter grows with a redirect, which leaves room for one more resolution
  have hroom : n + (if redirects a.ctx (a.event e) = true ∨ a.ctx.state = .redirect then 1 else 0) ≤
      b.ctx.redirectAttempts.toNat := by
    by_cases hr : redirects a.ctx (a.event e) = true
    · have hlt := hb.lt_of_redirects ho hr
      rw [(redirected_step hm hr hopen hstep).1, attempts_toNat_succ hlt, if_pos (Or.inl hr)]
      split_ifs at hcounted <;> omega
    · rw [redirectAttempts_step hsetup hstep (by simpa using hr) hreattach]
      simpa [hr] using hcounted
  by_cases hfollow : followsRedirect a e = true
  · have hres := ((followsRedirect_iff hs).mp hfollow).2.2
    obtain ⟨hpending, hlt, hcause⟩ := follow_step hm hstep hreattach hres
    rw [if_pos hcause] at hroom
    have hfive : b.ctx.redirectAttempts.toNat < 5 := UInt8.lt_iff_toNat_lt.mp hlt
    rw [hfollow]
    refine ⟨by simp; omega, fun hset => absurd hset hsetup', fun hrun => ?_⟩
    rcases hafter with ⟨-, ho'⟩ | hc
    · have hstate : b.ctx.state = .dns := (ho'.resolving hpending).1
      simpa [hstate] using hroom
    · cases hrun.symm.trans hc
  · rw [Bool.eq_false_of_not_eq_true hfollow]
    refine ⟨h.few, fun hset => absurd hset hsetup', fun _ => ?_⟩
    by_cases hred : b.ctx.state = .redirect
    · have hcause : redirects a.ctx (a.event e) = true ∨ a.ctx.state = .redirect := by
        by_cases hr : redirects a.ctx (a.event e) = true
        · exact Or.inl hr
        · exact Or.inr (redirect_entered hsetup hstep (by simpa using hr) hreattach hred)
      simpa [hred, if_pos hcause] using hroom
    · simp only [if_neg hred, Bool.toNat_false]
      split_ifs at hroom <;> omega

theorem Followed.step {e : NamedAttacherEvent} (h : Followed n a.ctx) (hinv : RedirectInv a.ctx)
    (ha : (view a.ctx).Accounted) (hfirst : isConnectedFirst a.ctx (a.event e) = true)
    (hopen : isOpenRedirect a.ctx (a.event e) = true) (hs : namedAttacherStep a e = some b)
    (hone : b.ctx.dtlsEvents.countP NpDtlsCliEvent.isTerminal ≤ 1) (he : e ≠ .reattach) :
    Followed (n + (followsRedirect a e).toNat) b.ctx := by
  obtain ⟨hstep, -⟩ := namedAttacherStep_ctx hs
  cases hinv with
  | fresh hfresh => exact h.fresh_step hfresh hs
  | runs hm ho hp _ hb =>
    exact h.runs_step hm ho hb hopen hs he (orderly_step hm ho ha hp hfirst hstep hone)
  | closed hm =>
    have hdown := (moves_step hstep).windsDown hm
    have hclosed : b.ctx.moduleState = .closed := hdown.1
    have hnone : followsRedirect a e = false := by
      rw [Bool.eq_false_iff, Ne, followsRedirect_iff hs, resolvesStarted_of_closed hdown]
      exact fun hres => absurd hres.2.2 (lt_irrefl 0)
    rw [hnone]
    exact ⟨h.few, fun hset => absurd (hclosed.symm.trans hset) (by simp),
      fun hrun => by cases hclosed.symm.trans hrun⟩

theorem followed_zero (hinv : RedirectInv ctx) : Followed 0 ctx := by
  refine ⟨by simp, fun _ => rfl, fun hrun => ?_⟩
  cases hinv with
  | fresh h => cases h.setup.symm.trans hrun
  | runs _ _ _ _ hb =>
    split_ifs with hs
    · exact hb.counted hs
    · exact Nat.zero_le _
  | closed hm => cases hm.symm.trans hrun

def isSoundStep (a : NamedAttacher) (e : NamedAttacherEvent) : Bool :=
  isConnectedFirst a.ctx (a.event e) && isOpenRedirect a.ctx (a.event e)

def hasOneTerminal (a : NamedAttacher) : Bool :=
  decide (a.ctx.dtlsEvents.countP NpDtlsCliEvent.isTerminal ≤ 1)

section
variable {a : NamedAttacher} {evs : List NamedAttacherEvent} (h0 : a.ctx = ncAttacherInit)
  (hone : ∀ t, (namedAttacherFrom a).Visits evs t → hasOneTerminal t = true)
  (hsound : ∀ t e, (namedAttacherFrom a).Takes evs t e → isSoundStep t e = true)
include h0 hone hsound

theorem redirectInv_visits {t : NamedAttacher} (hv : (namedAttacherFrom a).Visits evs t) :
    (view t.ctx).Accounted ∧ RedirectInv t.ctx := by
  refine hv.invariant_of_takes (fun t => (view t.ctx).Accounted ∧ RedirectInv t.ctx)
    (fun t e => isSoundStep t e = true ∧
      ∀ t', namedAttacherStep t e = some t' → hasOneTerminal t' = true) ?_ ?_ ?_
  · change (view a.ctx).Accounted ∧ RedirectInv a.ctx
    rw [h0]
    exact ⟨accounted_run Machine.Run.nil, .fresh fresh_init rfl⟩
  · rintro t e t' ⟨ha, hinv⟩ ⟨hg, hone'⟩ hs
    obtain ⟨hstep, -⟩ := namedAttacherStep_ctx hs
    obtain ⟨hfirst, hopen⟩ := Bool.and_eq_true_iff.mp hg
    exact ⟨ha.moves (moves_step hstep),
      redirectInv_step hinv ha hfirst hopen hstep (of_decide_eq_true (hone' t' hs))⟩
  · exact fun t e ht => ⟨hsound t e ht, fun t' hs => hone t' (ht.visits_step hs)⟩

/-- Between two executions of `reattach` the counter knows of every redirect that is followed. -/
theorem followed_run {pre mid : List NamedAttacherEvent} {s t : NamedAttacher}
    (hpre : (namedAttacherFrom a).Run pre s) (hmid : (namedAttacherFrom a).Run (pre ++ mid) t)
    (hin : pre ++ mid <+: evs) (hnone : .reattach ∉ mid) :
    Followed ((namedAttacherFrom a).countTaken followsRedirect s mid) t.ctx := by
  induction mid using List.reverseRecOn generalizing t with
  | nil =>
    rw [List.append_nil] at hmid hin
    have heq : s = t := hpre.unique hmid
    exact heq ▸ followed_zero (redirectInv_visits h0 hone hsound ⟨pre, hin, hpre⟩).2
  | append_singleton mid e ih =>
    rw [← List.append_assoc] at hmid hin
    have hexec := hmid.exec_eq
    rw [Machine.exec_snoc] at hexec
    obtain ⟨u, hu, hs⟩ := Option.bind_eq_some_iff.mp hexec
    have hbefore := Machine.run_of_exec hu
    have htakes : (namedAttacherFrom a).Takes evs u e := ⟨pre ++ mid, hin, hbefore⟩
    have hfollowed := ih hbefore ((List.prefix_append _ _).trans hin)
      fun h => hnone (List.mem_append_left _ h)
    obtain ⟨ha, hinv⟩ := redirectInv_visits h0 hone hsound htakes.visits
    obtain ⟨hfirst, hopen⟩ := Bool.and_eq_true_iff.mp (hsound u e htakes)
    have hreattach : e ≠ .reattach := fun heq => hnone (heq ▸ by simp)
    have hstep := hfollowed.step hinv ha hfirst hopen hs
      (of_decide_eq_true (hone t (htakes.visits_step hs))) hreattach
    have hfold : mid.foldlM (namedAttacherFrom a).step s = some u := by
      have hsplit := hu
      rw [Machine.exec, List.foldlM_append] at hsplit
      obtain ⟨s', hs', hfold⟩ := Option.bind_eq_some_iff.mp hsplit
      obtain rfl : s = s' := Option.some.inj (hpre.exec_eq.symm.trans hs')
      exact hfold
    have hlast : (namedAttacherFrom a).countTaken followsRedirect u [e] =
        (followsRedirect u e).toNat := by
      rw [Machine.countTaken, hs, Option.elim_some, Machine.countTaken, Nat.add_zero]
    rwa [Machine.countTaken_append followsRedirect [e] hfold, hlast]

end

/-- The attacher waits for the timer, or for the UDP send with which the connection is closed
and which leads to `RETRY_WAIT`. -/
def WaitsForRetry (ctx : NcAttachContext) : Prop :=
  ctx.state = .retryWait ∨
    ctx.state = .redirect ∧ ctx.dtls.state = .closing ∧ 0 < ctx.dtls.udpSends ∧
      ∀ coalesced env ctx', attacherStep ctx (.udpSent coalesced env) = some ctx' →
        ctx'.state = .retryWait

theorem RedirectInv.waitsForRetry (h : RedirectInv ctx) (hm : ctx.moduleState = .running)
    (hmax : ctx.redirectAttempts = maxRedirectFollow) : WaitsForRetry ctx := by
  cases h with
  | fresh h => cases h.setup.symm.trans hm
  | closed hc => cases hc.symm.trans hm
  | runs _ ho _ hf hb =>
    rcases hb.last hmax with hs | hs
    · exact Or.inl hs
    · have hclosing : ctx.dtls.state = .closing := ho.redirect hs
      refine Or.inr ⟨hs, hclosing, hf (hb.pending hs), fun coalesced env ctx' hstep => ?_⟩
      rw [udpSent_redirect hm hs hclosing hstep, hmax, if_pos (UInt8.le_refl _)]

/-- At the limit `reattach` alone starts a resolution. -/
theorem RedirectInv.resolves_reattach {e : NamedAttacherEvent} (h : RedirectInv a.ctx)
    (hm : a.ctx.moduleState = .running) (hmax : a.ctx.redirectAttempts = maxRedirectFollow)
    (hs : namedAttacherStep a e = some b) (hres : a.resolutions.length < b.resolutions.length) :
    e = .reattach := by
  by_contra he
  obtain ⟨hstep, hlength⟩ := namedAttacherStep_ctx hs
  rw [hlength, Nat.lt_add_right_iff_pos] at hres
  have hreattach := event_reattach hs he
  have hsetup : a.ctx.moduleState ≠ .setup := by simp [hm]
  obtain ⟨-, hlt, -⟩ := follow_step hm hstep hreattach hres
  cases h with
  | fresh h => exact hsetup h.setup
  | closed hc => cases hc.symm.trans hm
  | runs _ ho _ _ hb =>
    have hr : redirects a.ctx (a.event e) = false := by
      refine Bool.eq_false_of_not_eq_true fun hr => ?_
      exact absurd (hmax ▸ hb.lt_of_redirects ho hr) (by decide)
    rw [redirectAttempts_step hsetup hstep hr hreattach, hmax] at hlt
    exact absurd hlt (by decide)

theorem reattach_resolves (hm : a.ctx.moduleState ≠ .closed)
    (hs : namedAttacherStep a .reattach = some b) :
    b.currentPort = a.defaultPort ∧ b.defaultPort = a.defaultPort ∧ b.hostname = a.hostname ∧
      (0 ∉ a.hostname → a.hostname.length < 256 →
        b.resolutions = a.resolutions ++ [a.hostname]) := by
  rw [namedAttacherStep, if_neg hm] at hs
  obtain ⟨ctx', hstep, rfl⟩ := Option.map_eq_some_iff.mp hs
  refine ⟨rfl, rfl, rfl, fun hzero hfits => ?_⟩
  obtain ⟨-, hstep⟩ := Option.ite_none_right_eq_some.mp hstep
  have hone : resolvesStarted a.ctx ctx' .reattach = 1 := by
    rw [← Option.some.inj hstep, reattach, if_neg (by exact hm)]
    simp [resolvesStarted, handleStateChange, dnsStartResolve, useHostname]
  have hname := CString.read_write_terminated a.dns hzero hfits a.behind
  change a.resolutions ++ List.replicate (resolvesStarted a.ctx ctx' .reattach)
    ((a.dns.write (a.hostname ++ [0])).read a.behind) = _
  rw [hone, hname, List.replicate_one]

/-- At most four redirects are followed by a resolution before `reattach` is executed, and after
the fifth the attacher waits and goes back to the host it was configured with. -/
theorem redirects_limited {a : NamedAttacher} {evs : List NamedAttacherEvent}
    (h0 : a.ctx = ncAttacherInit)
    (hone : ∀ t, (namedAttacherFrom a).Visits evs t → hasOneTerminal t = true)
    (hsound : ∀ t e, (namedAttacherFrom a).Takes evs t e → isSoundStep t e = true) :
    (∀ t, (namedAttacherFrom a).Visits evs t → t.ctx.redirectAttempts ≤ 5 ∧
      (t.ctx.moduleState = .running → t.ctx.redirectAttempts = 5 → WaitsForRetry t.ctx)) ∧
    (∀ pre mid s t, pre ++ mid <+: evs → (namedAttacherFrom a).Run pre s →
      (namedAttacherFrom a).Run (pre ++ mid) t → .reattach ∉ mid →
      (namedAttacherFrom a).countTaken followsRedirect s mid ≤ 4) ∧
    ∀ t e t', (namedAttacherFrom a).Takes evs t e → namedAttacherStep t e = some t' →
      t.ctx.moduleState = .running → t.ctx.redirectAttempts = 5 →
      t.resolutions.length < t'.resolutions.length →
      e = .reattach ∧ t'.currentPort = t.defaultPort ∧
        (0 ∉ t.hostname → t.hostname.length < 256 →
          t'.resolutions = t.resolutions ++ [t.hostname]) := by
  have hinv {t : NamedAttacher} (hv : (namedAttacherFrom a).Visits evs t) : RedirectInv t.ctx :=
    (redirectInv_visits h0 hone hsound hv).2
  refine ⟨fun t hv => ⟨(hinv hv).attempts, (hinv hv).waitsForRetry⟩,
    fun pre mid s t hin hpre hmid hnone => ?_, fun t e t' ht hs hm hmax hres => ?_⟩
  · exact (followed_run h0 hone hsound hpre hmid hin hnone).few
  · obtain rfl := (hinv ht.visits).resolves_reattach hm hmax hs hres
    obtain ⟨hport, -, -, hname⟩ := reattach_resolves (by simp [hm]) hs
    exact ⟨rfl, hport, hname⟩

def redirectHop (closing : AttacherEnv) : List NamedAttacherEvent :=
  [.dnsResolved true [.v4 [10, 0, 0, 1]] { handshake := .done },
    .redirect 0 205 ⟨.textString [120, 121, 122], some 4434, .byteString []⟩ closing]

def fiveRedirects : List NamedAttacherEvent :=
  .start [97, 98] 4433 :: (redirectHop {} ++ redirectHop {} ++ redirectHop {} ++ redirectHop {} ++
    redirectHop {} ++ [.reattach])

theorem redirects_limited_five :
    (∀ t, namedAttacher.Visits fiveRedirects t → t.ctx.redirectAttempts ≤ 5) ∧
      namedAttacher.countTaken followsRedirect namedAttacher.init (fiveRedirects.take 11) = 4 ∧
      ((namedAttacher.exec (fiveRedirects.take 11)).map fun a =>
        (a.ctx.redirectAttempts, a.ctx.state)) = some (5, .retryWait) := by
  have hlimited := @redirects_limited namedAttacher.init fiveRedirects rfl
    (fun _ hv => Machine.visits_of_inits (p := hasOneTerminal) (by decide +kernel) hv)
    (fun _ _ ht => Machine.takes_of_allTaken (g := isSoundStep) (by decide +kernel) ht)
  exact ⟨fun t hv => (hlimited.1 t hv).1, by decide +kernel, by decide +kernel⟩

def closedBeforeRedirect : List NamedAttacherEvent :=
  .start [97, 98] 4433 :: (redirectHop {} ++ redirectHop {} ++ redirectHop {} ++ redirectHop {} ++
    [.dnsResolved true [.v4 [10, 0, 0, 1]] { handshake := .done },
      .other (.packet { read := .eof }),
        .redirect 0 205 ⟨.textString [120, 121, 122], some 4434, .byteString []⟩ {}])

def packetBeforeConnect : List NamedAttacherEvent :=
  [.start [97, 98] 4433, .other (.packet { handshake := .error }), .reattach] ++ redirectHop {} ++
    redirectHop {} ++ redirectHop {} ++ redirectHop {} ++ redirectHop { closeNotify := true } ++
    redirectHop {}

/-- In the first run the attacher stays in `REDIRECT` with nothing outstanding, in the second it
counts six redirects. -/
theorem redirects_unlimited :
    (∀ t, namedAttacher.Visits closedBeforeRedirect t → hasOneTerminal t = true) ∧
    (∃ a, namedAttacher.Run closedBeforeRedirect a ∧ a.ctx.moduleState = .running ∧
      a.ctx.redirectAttempts = 5 ∧ a.ctx.state = .redirect ∧ a.ctx.reattachTimer = false ∧
      a.ctx.dnsPending = 0 ∧ a.ctx.dtls.udpSends = 0 ∧ ¬ WaitsForRetry a.ctx) ∧
    (∀ t, namedAttacher.Visits packetBeforeConnect t → hasOneTerminal t = true) ∧
    ∃ a, namedAttacher.Run packetBeforeConnect a ∧ a.ctx.redirectAttempts = 6 := by
  refine ⟨fun _ hv => Machine.visits_of_inits (p := hasOneTerminal) (by decide +kernel) hv,
    ⟨_, Machine.run_of_exec rfl, by decide +kernel, by decide +kernel, by decide +kernel,
      by decide +kernel, by decide +kernel, by decide +kernel, ?_⟩,
    fun _ hv => Machine.visits_of_inits (p := hasOneTerminal) (by decide +kernel) hv,
    ⟨_, Machine.run_of_exec rfl, by decide +kernel⟩⟩
  rintro (hs | ⟨-, -, hsends, -⟩)
  · exact absurd hs (by decide +kernel)
  · exact absurd hsends (by decide +kernel)

end NabtoDevice
