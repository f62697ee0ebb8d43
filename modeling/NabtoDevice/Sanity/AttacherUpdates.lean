import NabtoDevice.Sanity.AttacherOrder
import Mathlib.Logic.Relation

/-! What the functions of the attacher do to a context, as a chain of single updates. A property
of the chains is checked on the updates only. The redirects, the answers to a keep-alive request
and the keep-alive requests of the attacher itself are steps of their own, and so is a packet of
the CoAP client. -/

namespace NabtoDevice

open AttacherView

def InFlight (d : NpDtlsCli) : Prop := d.sending = true → 0 < d.udpSends

variable {d : NpDtlsCli}

theorem InFlight.mbedtlsSend (h : InFlight d) : InFlight (nmDtlsMbedtlsSend d) := by
  unfold nmDtlsMbedtlsSend
  split_ifs
  · exact fun _ => Nat.succ_pos _
  · exact h

theorem InFlight.asyncSendData (h : InFlight d) (s : CliSendContext) :
    InFlight (asyncSendData d s) := by
  unfold NabtoDevice.asyncSendData
  split_ifs <;> exact h

/-- What the DTLS client does on the way to its UDP socket: its queue stays as it is and no UDP
send is lost. -/
structure SendsOn (d d' : NpDtlsCli) : Prop where
  queue : d'.sendList = d.sendList
  flight : InFlight d → InFlight d'

variable {d' : NpDtlsCli}

namespace SendsOn

theorem refl (d : NpDtlsCli) : SendsOn d d := ⟨rfl, id⟩

theorem trans {d₁ d₂ d₃ : NpDtlsCli} (h : SendsOn d₁ d₂) (h' : SendsOn d₂ d₃) : SendsOn d₁ d₃ :=
  ⟨h'.queue.trans h.queue, h'.flight ∘ h.flight⟩

theorem mbedtlsSend (h : SendsOn d d') : SendsOn d (nmDtlsMbedtlsSend d') := by
  refine ⟨?_, fun hd => (h.flight hd).mbedtlsSend⟩
  unfold nmDtlsMbedtlsSend
  split_ifs <;> exact h.queue

theorem call (h : SendsOn d d') (c : MbedtlsCall) : SendsOn d (mbedtlsCall d' c) := by
  unfold mbedtlsCall
  split_ifs
  · exact ⟨h.mbedtlsSend.queue, h.mbedtlsSend.flight⟩
  · exact ⟨h.queue, h.flight⟩

theorem closeNotify (h : SendsOn d d') (sends : Bool) :
    SendsOn d (mbedtlsSslCloseNotify d' sends) := by
  unfold mbedtlsSslCloseNotify
  split_ifs
  · exact h.mbedtlsSend
  · exact h

end SendsOn

/-- The part of a context that only the updates with a name of their own change. -/
def essence (ctx : NcAttachContext) :=
  (ctx.redirectAttempts, ctx.dtlsEvents, ctx.state, ctx.dnsPending, ctx.dtls,
    ctx.keepAlive.isSending, ctx.keepAlive.sendBuffer, ctx.coapIsSending)

inductive AttacherUpdate : NcAttachContext → NcAttachContext → Prop
  | aside {ctx ctx' : NcAttachContext} (h : essence ctx' = essence ctx) : AttacherUpdate ctx ctx'
  | dtls {ctx : NcAttachContext} {d : NpDtlsCli} (h : SendsOn ctx.dtls d) :
      AttacherUpdate ctx { ctx with dtls := d }
  | told (ctx : NcAttachContext) (event : NpDtlsCliEvent) :
      AttacherUpdate ctx (recordDtlsEvent ctx event)
  /-- A state is entered that neither connects nor resolves. -/
  | enter (ctx : NcAttachContext) {s : NcAttacherAttachState}
      (hs : s = .retryWait ∨ s = .accessDeniedWait ∨ s = .attached ∨ s = .closed) :
      AttacherUpdate ctx (handleStateChange { ctx with state := s })
  /-- A redirect is followed. -/
  | follow {ctx : NcAttachContext} (hs : ctx.state = .redirect)
      (hlt : ctx.redirectAttempts < maxRedirectFollow) :
      AttacherUpdate ctx (handleStateChange { ctx with state := .dns })
  | reset (ctx : NcAttachContext) : AttacherUpdate ctx (dtlsReset ctx)
  /-- The first packet of the queue is written and its callback called. -/
  | write {ctx : NcAttachContext} {next : CliSendContext} {rest : List CliSendContext}
      {d : NpDtlsCli} (hlist : ctx.dtls.sendList = next :: rest)
      (h : SendsOn { ctx.dtls with sendList := rest } d) :
      AttacherUpdate ctx (sendContextCb { ctx with dtls := d } next)

def Evolves : NcAttachContext → NcAttachContext → Prop := Relation.ReflTransGen AttacherUpdate

variable {ctx ctx₁ ctx' : NcAttachContext}

namespace Evolves

theorem refl : Evolves ctx ctx := Relation.ReflTransGen.refl

theorem trans {ctx₂ ctx₃ : NcAttachContext} (h : Evolves ctx₁ ctx₂) (h' : Evolves ctx₂ ctx₃) :
    Evolves ctx₁ ctx₃ := Relation.ReflTransGen.trans h h'

theorem update {ctx₂ : NcAttachContext} (h : Evolves ctx ctx₁) (hu : AttacherUpdate ctx₁ ctx₂) :
    Evolves ctx ctx₂ := Relation.ReflTransGen.tail h hu

theorem aside (h : essence ctx' = essence ctx) : Evolves ctx ctx' :=
  refl.update (.aside h)

theorem withDtls (h : Evolves ctx ctx₁) (hd : SendsOn ctx₁.dtls d) :
    Evolves ctx { ctx₁ with dtls := d } := h.update (.dtls hd)

end Evolves

theorem evolves_giveUp (ctx : NcAttachContext) : Evolves ctx (giveUp ctx) := by
  have hremoved : Evolves ctx (nabtoCoapClientRemoveConnection
      { ctx with keepAlive := ncKeepAliveReset ctx.keepAlive }) := .aside rfl
  exact hremoved.update (.reset _)

theorem evolves_dtlsClosedSwitch (ctx : NcAttachContext) : Evolves ctx (dtlsClosedSwitch ctx) := by
  have hwait (notes : List NcDeviceEvent) :
      Evolves ctx (handleStateChange { ctx with state := .retryWait, trace := notes }) := by
    have hnotes : Evolves ctx { ctx with trace := notes } := .aside rfl
    exact hnotes.update (.enter _ (by simp))
  unfold dtlsClosedSwitch
  cases hs : ctx.state with
  | accessDeniedWait => exact .refl
  | redirect =>
    dsimp only
    split_ifs with hmax
    · exact hwait ctx.trace
    · have hlt : ctx.redirectAttempts < maxRedirectFollow := UInt8.not_le.mp hmax
      exact Evolves.update .refl (.follow hs hlt)
  | attached => exact hwait (ctx.trace ++ [.detached])
  | dtlsAttachRequest | dns | retryWait | closed => exact hwait ctx.trace

/-- `CLOSED` is one of the events the attacher got. -/
theorem evolves_dtlsEventClosed (ctx : NcAttachContext) :
    Evolves (recordDtlsEvent ctx .closed) (dtlsEventClosed ctx) := by
  unfold dtlsEventClosed
  dsimp only
  split_ifs
  · exact Evolves.update .refl (.enter _ (by simp))
  · exact (evolves_giveUp (recordDtlsEvent ctx .closed)).trans (evolves_dtlsClosedSwitch _)

theorem evolves_closed (h : Evolves ctx ctx₁) : Evolves ctx (dtlsEventClosed ctx₁) :=
  (h.update (.told ctx₁ .closed)).trans (evolves_dtlsEventClosed ctx₁)

theorem evolves_dtlsCliClose (h : Evolves ctx ctx₁) (env : AttacherEnv) :
    Evolves ctx (dtlsCliClose ctx₁ env) := by
  unfold dtlsCliClose
  split_ifs with hopen
  · have hsends : SendsOn ctx₁.dtls { ctx₁.dtls with state := .closing } := ⟨rfl, id⟩
    have hclosing (timer : Bool) : Evolves ctx { ctx₁ with dtls :=
        { mbedtlsSslCloseNotify { ctx₁.dtls with state := .closing } env.closeNotify with
          timer := timer } } :=
      h.withDtls ⟨(hsends.closeNotify env.closeNotify).queue,
        (hsends.closeNotify env.closeNotify).flight⟩
    dsimp only
    split_ifs
    · exact evolves_closed (hclosing false)
    · exact hclosing _
  · exact h

theorem evolves_sendSctRequest (h : Evolves ctx ctx₁) (env : AttacherEnv) :
    Evolves ctx (sendSctRequest ctx₁ env) := by
  unfold sendSctRequest ncAttacherSctUpload
  dsimp only
  split_ifs
  · exact h
  · exact h
  · exact h
  · exact h.trans (.aside rfl)

theorem evolves_sendAttachEndRequest (h : Evolves ctx ctx₁) (env : AttacherEnv) :
    Evolves ctx (sendAttachEndRequest ctx₁ env) := by
  unfold sendAttachEndRequest ncAttacherAttachEndRequest
  split_ifs
  · exact evolves_dtlsCliClose h env
  · exact evolves_dtlsCliClose h env
  · exact h.trans (.aside rfl)

theorem evolves_sendAttachSctRequest (h : Evolves ctx ctx₁) (env : AttacherEnv) :
    Evolves ctx (sendAttachSctRequest ctx₁ env) := by
  unfold sendAttachSctRequest ncAttacherSctUpload
  dsimp only
  split_ifs
  · exact evolves_sendAttachEndRequest h env
  · exact evolves_dtlsCliClose h env
  · exact evolves_dtlsCliClose h env
  · exact h.trans (.aside rfl)

theorem evolves_sendAttachStartRequest (h : Evolves ctx ctx₁) (env : AttacherEnv) :
    Evolves ctx (sendAttachStartRequest ctx₁ env) := by
  unfold sendAttachStartRequest ncAttacherAttachStartRequest
  split_ifs
  · exact evolves_dtlsCliClose h env
  · exact evolves_dtlsCliClose h env
  · exact h.trans (.aside rfl)

def redirects (ctx : NcAttachContext) : AttacherEvent → Bool
  | .coapDone i (some res) _ =>
    match ctx.requests[i]? with
    | some request =>
      decide (request.kind = .attachStart) && !request.removed && ctx.startCallback &&
        decide (ctx.moduleState ≠ .closed) && ncCoapIsStatusOk res.code &&
        decide (res.payload = .redirect)
    | none => false
  | _ => false

variable {res : Option CoapClientResponse}

theorem Handled.evolves {i : ℕ} {kind : CoapRequestKind} (h : Handled ctx i res kind ctx₁) :
    Evolves ctx ctx₁ := by
  cases h with
  | attachStart | sctUpload | attachEnd => exact .aside rfl

/-- The effect of a redirect: the next state is `REDIRECT` and the connection is closed. -/
theorem coapRequestDone_redirects {i : ℕ} {env : AttacherEnv}
    (h : redirects ctx (.coapDone i res env) = true) :
    coapRequestDone ctx i res env = some (dtlsCliClose
      { ctx with
        requests := ctx.requests.eraseIdx i, startCallback := false, state := .redirect
        redirectAttempts := ctx.redirectAttempts + 1 } env) := by
  cases res with
  | none => cases h
  | some r =>
    cases hi : ctx.requests[i]? with
    | none => simp [redirects, hi] at h
    | some request =>
      simp only [redirects, hi, Bool.and_eq_true, decide_eq_true_eq, Bool.not_eq_true'] at h
      obtain ⟨⟨⟨⟨⟨hk, hrem⟩, hcb⟩, hm⟩, hok⟩, hp⟩ := h
      simp [coapRequestDone, hi, hk, hrem, hcb, coapAttachStartHandler,
        coapAttachStartHandleResponse, hok, hp, coapAttachStartCallback, hm]

theorem step_redirects {e : AttacherEvent} (hstep : attacherStep ctx e = some ctx')
    (hr : redirects ctx e = true) :
    ∃ i res env, e = .coapDone i res env ∧ ctx' = dtlsCliClose
      { ctx with
        requests := ctx.requests.eraseIdx i, startCallback := false, state := .redirect
        redirectAttempts := ctx.redirectAttempts + 1 } env := by
  cases e with
  | coapDone i res env =>
    have hdone : coapRequestDone ctx i res env = some ctx' := hstep
    rw [coapRequestDone_redirects hr] at hdone
    exact ⟨i, res, env, rfl, (Option.some.inj hdone).symm⟩
  | _ => cases hr

theorem evolves_coapRequestDone {i : ℕ} {env : AttacherEnv}
    (h : coapRequestDone ctx i res env = some ctx')
    (hr : redirects ctx (.coapDone i res env) = false) : Evolves ctx ctx' := by
  obtain ⟨r, ctx₁, hi, hhandled, hcalls⟩ := coapRequestDone_callsBack h
  have hdone := hhandled.evolves
  clear hhandled
  obtain ⟨kind, removed⟩ := r
  cases hcalls with
  | fails => exact evolves_dtlsCliClose hdone env
  | started => exact evolves_sendAttachSctRequest hdone env
  | redirected hm hok hcb hp =>
    have hremoved : removed = false := not_removed_of_ok hok
    cases res with
    | none => simp [responseOf] at hp
    | some res => simp_all [redirects, responseOf, isOkResponse]
  | synchronized => exact evolves_sendAttachEndRequest hdone env
  | attached =>
    have hwait : Evolves ctx { ctx₁ with keepAlive := ncKeepAliveWait ctx₁.keepAlive } :=
      hdone.trans (.aside rfl)
    refine evolves_sendSctRequest ?_ env
    exact (hwait.update (.enter (s := .attached) _ (by simp))).trans (.aside rfl)
  | refused => exact hdone
  | uploaded => exact evolves_sendSctRequest hdone env

theorem evolves_handleDtlsConnected (h : Evolves ctx ctx₁) (env : AttacherEnv) :
    Evolves ctx (handleDtlsConnected ctx₁ env) := by
  unfold handleDtlsConnected
  split_ifs
  · exact evolves_dtlsCliClose h env
  · exact evolves_sendAttachStartRequest h env

theorem evolves_coapCompleteInReset (h : Evolves ctx ctx₁) (env : AttacherEnv) :
    Evolves ctx (coapCompleteInReset ctx₁ env) := by
  unfold coapCompleteInReset
  cases env.completesInReset with
  | none => exact h
  | some i =>
    dsimp only
    split_ifs
    · cases hdone : coapRequestDone ctx₁ i none env with
      | none => exact h
      | some ctx' => exact h.trans (evolves_coapRequestDone hdone rfl)
    · exact h

/-- An event of the DTLS client is one of those the attacher got. -/
theorem evolves_dtlsEventHandler (ctx : NcAttachContext) (event : NpDtlsCliEvent)
    (env : AttacherEnv) : Evolves (recordDtlsEvent ctx event) (dtlsEventHandler ctx event env) := by
  cases event with
  | closed => exact evolves_dtlsEventClosed ctx
  | handshakeComplete =>
    unfold dtlsEventHandler
    dsimp only
    split_ifs
    · exact evolves_dtlsCliClose .refl env
    · exact evolves_handleDtlsConnected .refl env
  | accessDenied =>
    unfold dtlsEventHandler
    dsimp only
    split_ifs
    · exact Evolves.update .refl (.enter _ (by simp))
    · have hlost : Evolves (recordDtlsEvent ctx .accessDenied) (nabtoCoapClientRemoveConnection
          { recordDtlsEvent ctx .accessDenied with keepAlive := ncKeepAliveReset ctx.keepAlive }) :=
        .aside rfl
      have hreset := (evolves_coapCompleteInReset hlost env).update (.reset _)
      exact hreset.update (.enter (s := .accessDeniedWait) _ (by simp))

theorem evolves_event (h : Evolves ctx ctx₁) (event : NpDtlsCliEvent) (env : AttacherEnv) :
    Evolves ctx (dtlsEventHandler ctx₁ event env) :=
  (h.update (.told ctx₁ event)).trans (evolves_dtlsEventHandler ctx₁ event env)

inductive Requeues (ctx : NcAttachContext) : NcAttachContext → Prop
  | mk {d : NpDtlsCli} {ka : NcKeepAlive} (h : SendsOn ctx.dtls d) (hopen : d.state ≠ .closing)
      (hfree : ctx.keepAlive.isSending = false) (hset : ka.isSending = true) :
      Requeues ctx { ctx with dtls := asyncSendData d .keepAlive, keepAlive := ka }

theorem Requeues.of_dtls (hd : SendsOn ctx.dtls d) (h : Requeues { ctx with dtls := d } ctx') :
    Requeues ctx ctx' := by
  obtain ⟨hsends, hopen, hfree, hset⟩ := h
  exact ⟨hd.trans hsends, hopen, hfree, hset⟩

/-- A keep-alive request is written and the DTLS client, which is closing, does not take it. -/
structure Suppresses (ctx ctx' : NcAttachContext) : Prop where
  closing : ctx.dtls.state = .closing
  free : ctx.keepAlive.isSending = false
  written : ctx'.keepAlive.isSending = true
  same : ∃ ka, ctx' = { ctx with keepAlive := ka }

theorem dtlsDataHandler_cases (hd : SendsOn ctx.dtls d) (hopen : d.state ≠ .closing)
    (buffer : List UInt8) :
    Evolves ctx (dtlsDataHandler { ctx with dtls := d } buffer) ∨
      Requeues ctx (dtlsDataHandler { ctx with dtls := d } buffer) := by
  have hnone : Evolves ctx { ctx with dtls := d } := Evolves.refl.withDtls hd
  cases buffer with
  | nil => exact Or.inl hnone
  | cons b bs =>
    unfold dtlsDataHandler handleKeepAliveData keepAliveSendResponse
    dsimp only
    split_ifs
    · exact Or.inl hnone
    · unfold ncKeepAliveHandleRequest
      split_ifs with hbusy
      · exact Or.inl hnone
      · rw [not_or, Bool.not_eq_true] at hbusy
        exact Or.inr ⟨hd, hopen, hbusy.2, rfl⟩
    · exact Or.inl hnone
    · exact Or.inl hnone

theorem doOne_evolves_or_requeues (ctx : NcAttachContext) (env : AttacherEnv) :
    Evolves ctx (nmDtlsEventDoOne ctx env) ∨ Requeues ctx (nmDtlsEventDoOne ctx env) := by
  have hsends := (SendsOn.refl ctx.dtls).call env.call
  have hcall (ssl : SslState) (timer : Bool) (recvCount : UInt32) : Evolves ctx { ctx with dtls :=
      { mbedtlsCall ctx.dtls env.call with
        state := ssl, timer := timer, recvCount := recvCount } } :=
    Evolves.refl.withDtls ⟨hsends.queue, hsends.flight⟩
  unfold nmDtlsEventDoOne
  cases hs : ctx.dtls.state with
  | closing => exact Or.inl .refl
  | connecting =>
    dsimp only
    cases env.handshake with
    | wantReadWrite => exact Or.inl (hcall _ _ _)
    | accessDenied | error => exact Or.inl (evolves_event (hcall .closing false _) _ env)
    | done => exact Or.inl (evolves_event (hcall .data _ _) _ env)
  | data =>
    dsimp only
    cases env.read with
    | eof => exact Or.inl (hcall .closing _ _)
    | wantReadWrite => exact Or.inl (hcall _ _ _)
    | data buffer =>
      dsimp only
      refine dtlsDataHandler_cases ?_ ?_ buffer
      · exact ⟨hsends.queue, hsends.flight⟩
      · simp [hs]
    | accessDenied => exact Or.inl (evolves_event (hcall _ false _) _ env)
    | error => exact Or.inl (evolves_closed (hcall .closing false _))

theorem doOne_after (hd : SendsOn ctx.dtls d) (env : AttacherEnv) :
    Evolves ctx (nmDtlsEventDoOne { ctx with dtls := d } env) ∨
      Requeues ctx (nmDtlsEventDoOne { ctx with dtls := d } env) := by
  rcases doOne_evolves_or_requeues { ctx with dtls := d } env with h | h
  · exact Or.inl ((Evolves.refl.withDtls hd).trans h)
  · exact Or.inr (h.of_dtls hd)

theorem evolves_doClose (h : Evolves ctx ctx₁) (env : AttacherEnv) :
    Evolves ctx (doClose ctx₁ env) := by
  unfold doClose
  split_ifs
  · exact h.trans (.aside rfl)
  have hclosed : Evolves ctx { ctx₁ with moduleState := .closed } := h.trans (.aside rfl)
  have hoff : Evolves ctx { ctx₁ with moduleState := .closed, reattachTimer := false } :=
    h.trans (.aside rfl)
  dsimp only
  split
  · exact hoff.update (.enter _ (by simp))
  · exact hoff.update (.enter _ (by simp))
  · exact h.trans (.aside rfl)
  · exact evolves_dtlsCliClose hclosed env
  · exact evolves_dtlsCliClose hclosed env
  · exact hclosed
  · exact hclosed

theorem evolves_startSendDeferred (h : Evolves ctx ctx₁) (ret : WriteRet) (call : MbedtlsCall) :
    Evolves ctx (nmMbedtlsCliStartSendDeferred ctx₁ ret call) := by
  unfold nmMbedtlsCliStartSendDeferred
  split
  · exact h
  split
  · exact h
  cases hlist : ctx₁.dtls.sendList with
  | nil => exact h
  | cons next rest =>
    have hsends := (SendsOn.refl { ctx₁.dtls with sendList := rest }).call call
    exact h.update (.write hlist ⟨hsends.queue, hsends.flight⟩)

theorem shouldSend_frame (ka : NcKeepAlive) (recvCount sentCount : UInt32) :
    (ncKeepAliveShouldSend ka recvCount sentCount).1.isSending = ka.isSending ∧
      (ncKeepAliveShouldSend ka recvCount sentCount).1.sendBuffer = ka.sendBuffer := by
  unfold ncKeepAliveShouldSend
  split_ifs <;> exact ⟨rfl, rfl⟩

theorem shouldSend_free (ka : NcKeepAlive) {recvCount sentCount : UInt32}
    (h : (ncKeepAliveShouldSend ka recvCount sentCount).2 = .sendKa) : ka.isSending = false := by
  unfold ncKeepAliveShouldSend at h
  dsimp only at h
  split_ifs at h with _ _ hsend
  exact hsend.1

def suppresses (ctx : NcAttachContext) : AttacherEvent → Bool
  | .keepAlive _ =>
    decide (ctx.dtls.state = .closing) && decide ((ncKeepAliveShouldSend
      { ctx.keepAlive with armed := false } ctx.dtls.recvCount ctx.dtls.sentCount).2 = .sendKa)
  | _ => false

/-- The tick of a context, after the event has left the queue. -/
theorem keepAliveEvent_evolves (ctx : NcAttachContext) (env : AttacherEnv)
    (h : (ncKeepAliveShouldSend ctx.keepAlive ctx.dtls.recvCount ctx.dtls.sentCount).2 ≠ .sendKa) :
    Evolves ctx (keepAliveEvent ctx env) := by
  have hframe := shouldSend_frame ctx.keepAlive ctx.dtls.recvCount ctx.dtls.sentCount
  unfold keepAliveEvent
  generalize ncKeepAliveShouldSend ctx.keepAlive ctx.dtls.recvCount ctx.dtls.sentCount =
    sent at h hframe ⊢
  obtain ⟨ka, action⟩ := sent
  have hka (armed : Bool) : Evolves ctx { ctx with keepAlive := { ka with armed := armed } } :=
    .aside (by simpa [essence] using hframe)
  cases action with
  | doNothing => exact hka true
  | sendKa => exact absurd rfl h
  | kaTimeout => exact evolves_dtlsCliClose (hka ka.armed) env

theorem keepAliveEvent_sends (ctx : NcAttachContext) (env : AttacherEnv)
    (h : (ncKeepAliveShouldSend ctx.keepAlive ctx.dtls.recvCount ctx.dtls.sentCount).2 = .sendKa) :
    ∃ ka, ka.isSending = true ∧ keepAliveEvent ctx env =
      { ctx with dtls := asyncSendData ctx.dtls .keepAlive, keepAlive := ka } := by
  unfold keepAliveEvent
  generalize ncKeepAliveShouldSend ctx.keepAlive ctx.dtls.recvCount ctx.dtls.sentCount = sent at h ⊢
  obtain ⟨ka, action⟩ := sent
  subst h
  exact ⟨ncKeepAliveWait (ncKeepAliveCreateRequest ka), rfl, rfl⟩

theorem keepAlive_tick (ctx : NcAttachContext) (env : AttacherEnv) :
    suppresses ctx (.keepAlive env) = false ∧
        (Evolves ctx (keepAliveEvent { ctx with keepAlive.armed := false } env) ∨
          Requeues ctx (keepAliveEvent { ctx with keepAlive.armed := false } env)) ∨
      suppresses ctx (.keepAlive env) = true ∧
        Suppresses ctx (keepAliveEvent { ctx with keepAlive.armed := false } env) := by
  by_cases hsend : (ncKeepAliveShouldSend { ctx.keepAlive with armed := false }
      ctx.dtls.recvCount ctx.dtls.sentCount).2 = .sendKa
  · have hfree : ctx.keepAlive.isSending = false :=
      shouldSend_free { ctx.keepAlive with armed := false } hsend
    obtain ⟨ka, hset, heq⟩ :=
      keepAliveEvent_sends { ctx with keepAlive.armed := false } env hsend
    rw [heq]
    by_cases hclosing : ctx.dtls.state = .closing
    · refine Or.inr ⟨by simp [suppresses, hclosing, hsend], hclosing, hfree, hset, ka, ?_⟩
      simp only [asyncSendData, hclosing, if_true]
    · exact Or.inl ⟨by simp [suppresses, hclosing], Or.inr ⟨.refl ctx.dtls, hclosing, hfree, hset⟩⟩
  · refine Or.inl ⟨by simp [suppresses, hsend], Or.inl ?_⟩
    have hquiet : Evolves ctx { ctx with keepAlive.armed := false } := .aside rfl
    exact hquiet.trans (keepAliveEvent_evolves _ env hsend)

theorem updates_step {e : AttacherEvent} (hcoap : e ≠ .coapSend)
    (hm : e = .start → ctx.moduleState ≠ .setup)
    (hstep : attacherStep ctx e = some ctx') (hr : redirects ctx e = false) (he : e ≠ .reattach)
    (hdns : ∀ ok env, e ≠ .dnsResolved ok env) :
    suppresses ctx e = false ∧ (Evolves ctx ctx' ∨ Requeues ctx ctx') ∨
      suppresses ctx e = true ∧ Suppresses ctx ctx' := by
  have hdtls {d : NpDtlsCli} (h : SendsOn ctx.dtls d) : Evolves ctx { ctx with dtls := d } :=
    Evolves.refl.withDtls h
  cases attacherCase_of_step hstep with
  | reattachLate | reattach => exact absurd rfl he
  | resolvedLate ok env => exact absurd rfl (hdns ok env)
  | resolveFailed env => exact absurd rfl (hdns false env)
  | resolved env => exact absurd rfl (hdns true env)
  | start hsetup => exact absurd hsetup (hm rfl)
  | coapBusy | coapSend => exact absurd rfl hcoap
  | startRefused => exact Or.inl ⟨rfl, Or.inl .refl⟩
  | asyncClose env =>
    have hcb : Evolves ctx { ctx with closedCb := true } := .aside rfl
    exact Or.inl ⟨rfl, Or.inl (evolves_doClose hcb env)⟩
  | stop env =>
    have hstop : Evolves ctx { ctx with keepAlive := ncKeepAliveStop ctx.keepAlive } := .aside rfl
    exact Or.inl ⟨rfl, Or.inl (evolves_doClose hstop env)⟩
  | addToken token inserted env =>
    obtain ⟨sct, -, heq | ⟨-, heq⟩⟩ := addToken_cases ctx token inserted env
    · rw [heq]
      exact Or.inl ⟨rfl, Or.inl (.aside rfl)⟩
    · rw [heq]
      have htoken : Evolves ctx { ctx with sctContext := sct } := .aside rfl
      exact Or.inl ⟨rfl, Or.inl (evolves_sendSctRequest htoken env)⟩
  | packet env => exact Or.inl ⟨rfl, doOne_evolves_or_requeues ctx env⟩
  | timerClosing => exact Or.inl ⟨rfl, Or.inl (hdtls ⟨rfl, id⟩)⟩
  | timer env =>
    refine Or.inl ⟨rfl, doOne_after ?_ env⟩
    exact ⟨rfl, id⟩
  | udpSentLast =>
    refine Or.inl ⟨rfl, Or.inl (evolves_closed ?_)⟩
    exact hdtls ⟨rfl, fun _ hsending => Bool.noConfusion hsending⟩
  | udpSent coalesced env =>
    refine Or.inl ⟨rfl, doOne_after ?_ env⟩
    exact ⟨rfl, fun _ hsending => Bool.noConfusion hsending⟩
  | startSend ret call =>
    refine Or.inl ⟨rfl, Or.inl (evolves_startSendDeferred ?_ ret call)⟩
    exact hdtls ⟨rfl, id⟩
  | coapDone hdone => exact Or.inl ⟨rfl, Or.inl (evolves_coapRequestDone hdone hr)⟩
  | keepAlive env => exact keepAlive_tick ctx env
  | closeEv => exact Or.inl ⟨rfl, Or.inl (.aside rfl)⟩

/-- The packets the DTLS client has taken, and the flags that stand for them. -/
def sendQueue (ctx : NcAttachContext) := (ctx.dtls.sendList, ctx.coapIsSending, ctx.keepAlive)

/-- Every step but a packet of the CoAP client. What comes before the updates leaves the queue as
it is. -/
theorem queue_step {e : AttacherEvent} (hcoap : e ≠ .coapSend)
    (hstep : attacherStep ctx e = some ctx') :
    ∃ ctx₁, sendQueue ctx₁ = sendQueue ctx ∧
      (suppresses ctx e = false ∧ (Evolves ctx₁ ctx' ∨ Requeues ctx₁ ctx') ∨
        suppresses ctx e = true ∧ Suppresses ctx₁ ctx') := by
  by_cases hr : redirects ctx e = true
  · obtain ⟨i, res, env, rfl, rfl⟩ := step_redirects hstep hr
    refine ⟨_, ?_, Or.inl ⟨rfl, Or.inl (evolves_dtlsCliClose .refl env)⟩⟩
    rfl
  cases attacherCase_of_step hstep with
  | start | resolvedLate | resolveFailed | reattachLate | reattach =>
    refine ⟨_, ?_, Or.inl ⟨rfl, Or.inl .refl⟩⟩
    rfl
  | resolved env =>
    refine ⟨_, ?_, Or.inl ⟨rfl, doOne_evolves_or_requeues _ env⟩⟩
    rfl
  | startRefused => exact ⟨ctx, rfl, Or.inl ⟨rfl, Or.inl .refl⟩⟩
  | _ =>
    have hquiet : redirects ctx _ = false := Bool.eq_false_of_not_eq_true hr
    exact ⟨ctx, rfl, updates_step hcoap (fun h => by cases h) hstep hquiet (by simp) (by simp)⟩

end NabtoDevice
