import NabtoDevice.Sanity.AttacherOrder

/-! The device event listener receives `ATTACHED` and `DETACHED` alternately in
every run in which the DTLS client delivers its events in the states that expect
them. The other runs exist: an access denied alert on an established connection
leaves `ATTACHED` without a `DETACHED`. -/

namespace NabtoDevice

open AttacherView

def Expects (state : NcAttacherAttachState) : NpDtlsCliEvent → Prop
  | .closed => state ≠ .dns
  | .handshakeComplete => state = .dtlsAttachRequest
  | .accessDenied => state ≠ .dns ∧ state ≠ .attached

instance (state : NcAttacherAttachState) : (ev : NpDtlsCliEvent) → Decidable (Expects state ev)
  | .closed => inferInstanceAs (Decidable (state ≠ .dns))
  | .handshakeComplete => inferInstanceAs (Decidable (state = .dtlsAttachRequest))
  | .accessDenied => inferInstanceAs (Decidable (state ≠ .dns ∧ state ≠ .attached))

/-- While the module runs, DTLS events come in the states that expect them. -/
def DtlsExpected (ctx : NcAttachContext) (e : AttacherEvent) : Prop :=
  ctx.moduleState = .running → ∀ ev ∈ deliveredEvent ctx e, Expects ctx.state ev

instance (ctx : NcAttachContext) (e : AttacherEvent) : Decidable (DtlsExpected ctx e) :=
  inferInstanceAs (Decidable (_ → ∀ ev ∈ deliveredEvent ctx e, _))

variable {ctx : NcAttachContext} {e : AttacherEvent}

theorem awaits_of_expected (h : DtlsExpected ctx e) (hm : ctx.moduleState = .running) :
    Awaits ctx e := by
  intro event hevent
  have hexp := h hm event hevent
  cases event with
  | closed | handshakeComplete => exact decide_eq_true hexp
  | accessDenied => exact decide_eq_true hexp.1

/-! ## What the listener receives -/

/-- `ATTACHED` at the even and `DETACHED` at the odd positions. -/
def Alternates (events : List NcDeviceEvent) : Prop :=
  ∀ i e, events[i]? = some e → e = if i % 2 = 0 then .attached else .detached

theorem alternates_nil : Alternates [] := by
  intro i e h
  simp at h

theorem Alternates.snoc {events : List NcDeviceEvent} {e : NcDeviceEvent} (h : Alternates events)
    (he : e = if events.length % 2 = 0 then .attached else .detached) :
    Alternates (events ++ [e]) := by
  intro i e' hi
  rcases Nat.lt_trichotomy i events.length with hlt | rfl | hgt
  · rw [List.getElem?_append_left hlt] at hi
    exact h i e' hi
  · simp only [List.getElem?_concat_length, Option.some.injEq] at hi
    rw [← hi, he]
  · rw [List.getElem?_eq_none (by simp; omega)] at hi
    cases hi

variable {v v' : AttacherView}

namespace AttacherView

/-- The notifications alternate, and their parity says whether the device is attached. -/
structure Notified (v : AttacherView) : Prop where
  alternates : Alternates v.notified
  attached : v.notified.length % 2 = 1 ↔ v.state = .attached

/-- From one state that is not `ATTACHED` to another, without a notification. -/
theorem Notified.change {w : AttacherView} (h : v.Notified) (hs : v.state ≠ .attached)
    (hnotified : w.notified = v.notified) (hw : w.state ≠ .attached) : w.Notified := by
  refine ⟨hnotified ▸ h.alternates, ?_⟩
  rw [hnotified, h.attached]
  exact iff_of_false hs hw

theorem Notified.keep {w : AttacherView} (h : v.Notified) (hnotified : w.notified = v.notified)
    (hs : w.state = v.state) : w.Notified :=
  ⟨hnotified ▸ h.alternates, by rw [hnotified, hs]; exact h.attached⟩

theorem Notified.tellsClosed (h : v.Notified) (hm : v.moduleState ≠ .closed)
    (ht : TellsClosed v v') : v'.Notified ∧ (v.state ≠ .attached → v'.state ≠ .attached) := by
  cases ht with
  | shut hc => exact absurd hc hm
  | denied => exact ⟨h.keep rfl rfl, id⟩
  | wait _ hatt => exact ⟨h.change hatt rfl (by simp), fun _ => by simp⟩
  | detach _ hs =>
    have hodd := h.attached.mpr hs
    refine ⟨⟨h.alternates.snoc (by simp [hodd]), ?_⟩, fun _ => by simp⟩
    simp only [List.length_append, List.length_singleton, reduceCtorEq, iff_false]
    omega
  | follow _ hs => exact ⟨h.change (by simp [hs]) rfl (by simp), fun _ => by simp⟩

theorem Notified.closes (h : v.Notified) (hm : v.moduleState ≠ .closed) (hc : Closes v v') :
    v'.Notified ∧ (v.state ≠ .attached → v'.state ≠ .attached) := by
  have hclosing : Notified { v with ssl := .closing } := h.keep rfl rfl
  cases hc with
  | already => exact ⟨h, id⟩
  | sending => exact ⟨hclosing, id⟩
  | tells _ ht => exact hclosing.tellsClosed hm ht

theorem Notified.uploads (h : v.Notified) (hu : Uploads v v') : v'.Notified := by
  cases hu with
  | nothing => exact h
  | upload => exact h.keep rfl rfl

theorem Notified.goesOn (h : v.Notified) (hm : v.moduleState ≠ .closed)
    (hs : v.state = .dtlsAttachRequest) (hg : GoesOn v v') : v'.Notified := by
  have hatt : v.state ≠ .attached := by simp [hs]
  cases hg with
  | fail hc => exact (h.closes hm hc).1
  | upload | request => exact h.keep rfl rfl
  | redirect hc =>
    have hred : Notified { v with state := .redirect } := h.change hatt rfl (by simp)
    exact (hred.closes hm hc).1
  | attach hu =>
    have heven : v.notified.length % 2 = 0 := by
      have hodd := mt h.attached.mp hatt
      omega
    have hattached : Notified
        { v with state := .attached, keepAlive := true, notified := v.notified ++
          [.attached] } := by
      refine ⟨h.alternates.snoc (by simp [heven]), ?_⟩
      simp only [List.length_append, List.length_singleton, iff_true]
      omega
    exact hattached.uploads hu

theorem Notified.inReset (h : v.Notified) (hm : v.moduleState ≠ .closed)
    (hatt : v.state ≠ .attached) (hr : InReset v v') : v'.Notified ∧ v'.state ≠ .attached := by
  have hdone (i : ℕ) (r : CoapClientRequest) : (v.complete i r).Notified := h.keep rfl rfl
  cases hr with
  | nothing => exact ⟨h, hatt⟩
  | completes => exact ⟨hdone _ _, hatt⟩
  | fails _ hc =>
    obtain ⟨hn, hs⟩ := (hdone _ _).closes hm hc
    exact ⟨hn, hs hatt⟩

theorem Notified.reads {ev : Option NpDtlsCliEvent} (h : v.Notified) (hm : v.moduleState ≠ .closed)
    (hexp : ∀ event ∈ ev, Expects v.state event) (hr : Reads v ev v') : v'.Notified := by
  have hssl (ssl : SslState) : Notified { v with ssl := ssl } := h.keep rfl rfl
  cases hr with
  | nothing => exact h
  | eof => exact hssl .closing
  | closed _ ht => exact ((hssl .closing).tellsClosed hm ht).1
  | shut _ hc => exact absurd hc hm
  | @denied _ _ ssl _ _ hreset =>
    have hatt : v.state ≠ .attached := (hexp .accessDenied rfl).2
    have hlose : Notified (AttacherView.lose { v with ssl := ssl }) := h.keep rfl rfl
    obtain ⟨hn, hs⟩ := hlose.inReset hm hatt hreset
    exact hn.change hs rfl (by simp)
  | refuse _ hc => exact ((hssl .data).closes hm hc).1
  | request => exact h.keep rfl rfl

end AttacherView

theorem notified_moves (hm : ctx.moduleState = .running) (ho : (view ctx).Orderly)
    (h : (view ctx).Notified)
    (hexp : ∀ event ∈ deliveredEvent ctx e, Expects ctx.state event) (hmove : Moves (view ctx) e v')
    (hrun : v'.moduleState = .running) : v'.Notified := by
  have hopen : (view ctx).moduleState ≠ .closed := by simp [view, hm]
  have hsetup : (view ctx).moduleState ≠ .setup := by simp [view, hm]
  cases hmove with
  | rest | tick => exact h
  | start hs => exact absurd hs hsetup
  | asyncClose hd => exact absurd hrun (hd.not_running hsetup)
  | stop hd => exact absurd hrun (hd.not_running hsetup)
  | addToken _ hu => exact h.uploads hu
  | resolvedLate _ hc => exact absurd hc hopen
  | resolveFailed hp _ =>
    have hs : (view ctx).state = .dns := (ho.resolving hp).1
    exact h.change (by simp [hs]) rfl (by simp)
  | connect hp _ hr =>
    have hs : (view ctx).state = .dns := (ho.resolving hp).1
    have hconnected : Notified { view ctx with
        dnsPending := (view ctx).dnsPending - 1, state := .dtlsAttachRequest, ssl := .connecting
        connects := (view ctx).connects + 1,
          told := false } := h.change (by simp [hs]) rfl (by simp)
    refine hconnected.reads hopen (fun event _ => ?_) hr
    cases event <;> simp [Expects]
  | packet _ hr => exact h.reads hopen hexp hr
  | dtlsTimer hr => exact h.reads hopen hexp hr
  | udpSent hssl hr =>
    have hopen' : ctx.dtls.state ≠ .closing := hssl
    rw [deliveredEvent, if_neg hopen'] at hexp
    exact h.reads hopen hexp hr
  | udpSentLast _ ht => exact (h.tellsClosed hopen ht).1
  | @fails i _ _ r _ _ _ hc =>
    have hdone : ((view ctx).complete i r).Notified := h.keep rfl rfl
    exact (hdone.closes hopen hc).1
  | @goesOn i _ _ r _ hi ha hr _ hg =>
    have hdone : ((view ctx).complete i r).Notified := h.keep rfl rfl
    exact hdone.goesOn hopen (complete_of_live ho hi hr ha).2.1 hg
  | @synchronizes i _ _ r _ _ _ _ hu =>
    have hdone : ((view ctx).complete i r).Notified := h.keep rfl rfl
    exact hdone.uploads hu
  | @timeout _ _ _ armed hc =>
    have harmed : Notified { view ctx with keepAlive := armed } := h.keep rfl rfl
    exact (harmed.closes hopen hc).1
  | reattach ht _ =>
    have hatt : (view ctx).state ≠ .attached := by rcases ho.timer ht with hw | hw <;> simp [hw]
    exact h.change hatt rfl (by simp)
  | reattachLate _ hc => exact absurd hc hopen
  | closeEv => exact h.keep rfl rfl

/-! ## Before the module is started and while it runs -/

structure Fresh (ctx : NcAttachContext) : Prop where
  setup : ctx.moduleState = .setup
  state : ctx.state = .dns
  timer : ctx.reattachTimer = false
  dnsPending : ctx.dnsPending = 0
  requests : ctx.requests = []
  sctCallback : ctx.sctContext.callback = none
  dtls : ctx.dtls = nmMbedtlsCliCreate
  keepAlive : ctx.keepAlive.armed = false
  connects : ctx.dtlsConnects = 0
  silent : ctx.trace = []

inductive AttacherInv (ctx : NcAttachContext) : Prop
  | fresh (h : Fresh ctx)
  | runs (hm : ctx.moduleState = .running) (ho : (view ctx).Orderly) (hn : (view ctx).Notified)
  | closed (hm : ctx.moduleState = .closed) (ha : Alternates ctx.trace)

theorem AttacherInv.alternates (h : AttacherInv ctx) : Alternates ctx.trace := by
  cases h with
  | fresh h => exact h.silent ▸ alternates_nil
  | runs _ _ hn => exact hn.alternates
  | closed _ ha => exact ha

theorem view_start (h : Fresh ctx) :
    view (ncAttacherStart ctx) =
      { view ctx with moduleState := .running, dnsPending := (view ctx).dnsPending + 1 } := by
  rw [ncAttacherStart, if_neg (by simp [h.setup])]
  simp [view, handleStateChange, dnsStartResolve, h.state]

theorem orderly_start (h : Fresh ctx) : (view (ncAttacherStart ctx)).Orderly := by
  rw [view_start h]
  refine ⟨?_, ?_, ?_, ?_, ?_, ?_, ?_⟩ <;>
    simp [view, AttacherView.live, h.state, h.timer, h.dnsPending, h.requests, h.keepAlive]

def isOfCaller : AttacherEvent → Bool
  | .start | .asyncClose _ | .stop _ | .addToken _ _ _ | .closeEv => true
  | _ => false

variable {ctx' : NcAttachContext}

theorem fresh_isOfCaller (h : Fresh ctx) (hstep : attacherStep ctx e = some ctx') :
    isOfCaller e = true := by
  cases e with
  | start | asyncClose | stop | addToken | closeEv => rfl
  -- nothing else is outstanding yet
  | dnsResolved ok env => simp [attacherStep, h.dnsPending] at hstep
  | packet env => simp [attacherStep, h.setup] at hstep
  | dtlsTimer | udpSent | startSend => simp [attacherStep, h.dtls, nmMbedtlsCliCreate] at hstep
  | coapSend => simp [attacherStep, h.requests] at hstep
  | coapDone i res env => simp [attacherStep, coapRequestDone, h.requests] at hstep
  | keepAlive env => simp [attacherStep, h.keepAlive] at hstep
  | reattach => simp [attacherStep, h.timer] at hstep

theorem fresh_stays (h : Fresh ctx) (he : e ≠ .start) (hstep : attacherStep ctx e = some ctx') :
    Fresh ctx' := by
  have hcaller := fresh_isOfCaller h hstep
  obtain ⟨hm, hs, ht, hd, hr, hcb, hdtls, hka, hcon, htr⟩ := h
  cases e with
  | start => exact absurd rfl he
  | asyncClose env =>
    rw [← Option.some.inj hstep, ncAttacherAsyncClose, doClose, if_pos hm]
    exact ⟨hm, hs, ht, hd, hr, hcb, hdtls, hka, hcon, htr⟩
  | stop env =>
    rw [← Option.some.inj hstep, ncAttacherStop, doClose, if_pos hm]
    exact ⟨hm, hs, ht, hd, hr, hcb, hdtls, rfl, hcon, htr⟩
  | addToken token inserted env =>
    obtain ⟨sct, hsct, heq | ⟨hatt, -⟩⟩ := addToken_cases ctx token inserted env
    · rw [attacherStep, heq] at hstep
      rw [← Option.some.inj hstep]
      exact ⟨hm, hs, ht, hd, hr, hsct.trans hcb, hdtls, hka, hcon, htr⟩
    · rw [hs] at hatt
      cases hatt
  | closeEv =>
    obtain ⟨-, rfl⟩ := Machine.of_guard hstep
    exact ⟨hm, hs, rfl, hd, hr, hcb, hdtls, hka, hcon, htr⟩
  | _ => cases hcaller

theorem fresh_step (h : Fresh ctx) (hstep : attacherStep ctx e = some ctx') : AttacherInv ctx' := by
  by_cases he : e = .start
  · subst he
    have hview := view_start h
    rw [← Option.some.inj hstep]
    refine .runs (congrArg AttacherView.moduleState hview) (orderly_start h) ?_
    have hsilent : (view ctx).notified = [] := h.silent
    have hs : (view ctx).state ≠ .attached := by simp [view, h.state]
    rw [hview]
    exact ⟨hsilent ▸ alternates_nil, by simp [hsilent, hs]⟩
  · exact .fresh (fresh_stays h he hstep)

theorem runs_step (hm : ctx.moduleState = .running) (ho : (view ctx).Orderly)
    (hn : (view ctx).Notified)
    (hexp : DtlsExpected ctx e) (hstep : attacherStep ctx e = some ctx') : AttacherInv ctx' := by
  have hmove := moves_step hstep
  rcases orderly_moves hm ho (awaits_of_expected hexp hm) hmove with ⟨hm', ho'⟩ | ⟨cb, armed, -, hd⟩
  · exact .runs hm' ho' (notified_moves hm ho hn (hexp hm) hmove hm')
  · have hdown := hd.windsDown (by simp [view, hm])
    have hsilent : ctx'.trace = ctx.trace := hdown.2.1
    exact .closed hdown.1 (hsilent ▸ hn.alternates)

theorem attacherInv_step (h : AttacherInv ctx) (hexp : DtlsExpected ctx e)
    (hstep : attacherStep ctx e = some ctx') : AttacherInv ctx' := by
  cases h with
  | fresh h => exact fresh_step h hstep
  | runs hm ho hn => exact runs_step hm ho hn hexp hstep
  | closed hm ha =>
    have hdown := (moves_step hstep).windsDown hm
    have hsilent : ctx'.trace = ctx.trace := hdown.2.1
    exact .closed hdown.1 (hsilent ▸ ha)

theorem fresh_init : Fresh ncAttacherInit := ⟨rfl, rfl, rfl, rfl, rfl, rfl, rfl, rfl, rfl, rfl⟩

/-- In a run whose DTLS events all come in states that expect them, the listener
receives `ATTACHED` and `DETACHED` alternately, `ATTACHED` first. -/
theorem notifications_alternate {evs : List AttacherEvent} {ctx : NcAttachContext}
    (hexp : ∀ t e, attacher.Takes evs t e → DtlsExpected t e) (hv : attacher.Visits evs ctx) :
    Alternates ctx.trace := by
  have hinv := hv.invariant_of_takes AttacherInv DtlsExpected (.fresh fresh_init)
    (fun _ _ _ h hG hs => attacherInv_step h hG hs) hexp
  exact hinv.alternates

def attachedResponse : Option CoapClientResponse := some ⟨205, .attached none⟩

def changedResponse : Option CoapClientResponse := some ⟨204, .invalid⟩

/-- The pending request goes out and the packet `b` comes back with the response. -/
def requestRun (b : UInt8) (res : Option CoapClientResponse) : List AttacherEvent :=
  [.coapSend, .startSend .written ⟨true, false⟩, .udpSent 0 {}, .packet { read := .data [b] },
    .coapDone 0 res {}]

def attachRun : List AttacherEvent :=
  [.dnsResolved true { call := ⟨true, true⟩ }, .udpSent 0 {}, .packet { handshake := .done }] ++
    requestRun 0x45 attachedResponse ++ requestRun 0x44 changedResponse

def reattachRun : List AttacherEvent :=
  .start :: attachRun ++ .packet { read := .error } :: .reattach :: attachRun

theorem notifications_alternate_reattach :
    attacher.allTaken (fun t e => DtlsExpected t e) attacher.init reattachRun = true ∧
      (attacher.exec reattachRun).map (·.trace) = some [.attached, .detached, .attached] ∧
      ∀ ctx, attacher.Visits reattachRun ctx → Alternates ctx.trace := by
  have hall : attacher.allTaken (fun t e => DtlsExpected t e) attacher.init reattachRun = true := by
    decide +kernel
  refine ⟨hall, by decide +kernel, fun ctx hv => notifications_alternate (fun t e ht => ?_) hv⟩
  simpa using Machine.takes_of_allTaken hall ht

def accessDeniedRun : List AttacherEvent :=
  .start :: attachRun ++ .packet { read := .accessDenied } :: .reattach :: attachRun

/-- Two `ATTACHED` in a row. -/
theorem access_denied_not_alternating :
    ∃ ctx, attacher.Run accessDeniedRun ctx ∧ ctx.trace = [.attached, .attached] ∧
      ¬ Alternates ctx.trace := by
  obtain ⟨ctx, hctx⟩ : ∃ ctx, attacher.exec accessDeniedRun = some ctx :=
    Option.isSome_iff_exists.mp (by decide +kernel)
  have htrace : (attacher.exec accessDeniedRun).map (·.trace) = some [.attached, .attached] := by
    decide +kernel
  rw [hctx, Option.map_some, Option.some.injEq] at htrace
  refine ⟨ctx, Machine.run_of_exec hctx, htrace, fun h => ?_⟩
  rw [htrace] at h
  have := h 1 .attached rfl
  simp at this

end NabtoDevice
