import NabtoDevice.Spec.DtlsClient
import Mathlib.Tactic.Common

/-! What a step of the DTLS client module does to its link: the state, the outstanding
UDP sends and the events delivered. -/

namespace NabtoDevice

/-- What each event makes the module do, with the guards of the step and of the function that it
calls. The proofs that go through all events split these cases. -/
inductive DtlsClientCase (ctx : DtlsClient) : DtlsClientEvent → DtlsClient → Prop
  | packet (env : CliEnv) (hframes : ctx.frames = []) :
      DtlsClientCase ctx (.packet env)
        (DtlsClient.eventDoOne { ctx with receiving := true } env .handlePacket)
  | timerClosing (env : CliEnv) (hframes : ctx.frames = []) (hclosing : ctx.state = .closing) :
      DtlsClientCase ctx (.timer env) { ctx with timer := false }
  | timer (env : CliEnv) (hframes : ctx.frames = []) (hopen : ctx.state ≠ .closing) :
      DtlsClientCase ctx (.timer env) (DtlsClient.eventDoOne { ctx with timer := false } env .done)
  | udpSentLast (coalesced : ℕ) (env : CliEnv) (hframes : ctx.frames = [])
      (hsent : coalesced < ctx.udpSends)
      (hclosing : ctx.state = .closing) :
      DtlsClientCase ctx (.udpSent coalesced env) (DtlsClient.doClose { ctx with
        udpSends := ctx.udpSends - (coalesced + 1), sending := false,
          sslSendBuffer := false } .udpSendCallback)
  | udpSent (coalesced : ℕ) (env : CliEnv) (hframes : ctx.frames = [])
      (hsent : coalesced < ctx.udpSends)
      (hopen : ctx.state ≠ .closing) :
      DtlsClientCase ctx (.udpSent coalesced env) (DtlsClient.eventDoOne { ctx with
        udpSends := ctx.udpSends - (coalesced + 1), sending := false,
          sslSendBuffer := false } env .done)
  | startSend (ret : WriteRet) (use : MbedtlsUse) (hframes : ctx.frames = []) :
      DtlsClientCase ctx (.startSend ret use)
        (DtlsClient.startSendDeferred { ctx with startSendEvent := false } ret use)
  | connect (env : CliEnv) (hlive : ctx.destroyed = false) :
      DtlsClientCase ctx (.connect env)
        (DtlsClient.eventDoOne
          { ctx with state := .connecting, sending := false, events := [] } env .done)
  | reset (hlive : ctx.destroyed = false) : DtlsClientCase ctx .reset ctx.resetLoop
  | close (record : RecordSend) (hlive : ctx.destroyed = false) :
      DtlsClientCase ctx (.close record) (ctx.close record)
  | sendRefused (sendCtx : ℕ) (hclosing : ctx.state = .closing) :
      DtlsClientCase ctx (.send sendCtx) { ctx with sendList := ctx.sendList.refuse }
  | send (sendCtx : ℕ) (hopen : ctx.state ≠ .closing) :
      DtlsClientCase ctx (.send sendCtx)
        { ctx with sendList := ctx.sendList.accept sendCtx, startSendEvent := true }
  | destroy (hlive : ctx.destroyed = false) : DtlsClientCase ctx .destroy ctx.destroy
  | ret {rest : CliFrame} {frames : List CliFrame} (hframes : ctx.frames = rest :: frames) :
      DtlsClientCase ctx .ret (DtlsClient.resume { ctx with frames := frames } rest)

variable {ctx ctx' : DtlsClient} {e : DtlsClientEvent}

theorem dtlsClientCase_of_step (hs : dtlsClientStep ctx e = some ctx') :
    DtlsClientCase ctx e ctx' := by
  obtain ⟨-, hs⟩ := Option.ite_none_left_eq_some.mp hs
  cases e with
  | packet env =>
    obtain ⟨hframes, rfl⟩ := Machine.of_guard hs
    exact .packet env hframes
  | timer env =>
    obtain ⟨⟨hframes, -⟩, rfl⟩ := Machine.of_guard hs
    rw [DtlsClient.timedEventDoOne]
    split_ifs with hstate
    · exact .timerClosing env hframes hstate
    · exact .timer env hframes hstate
  | udpSent coalesced env =>
    obtain ⟨⟨hframes, hsent⟩, rfl⟩ := Machine.of_guard hs
    rw [DtlsClient.udpSendCallback]
    dsimp only
    split_ifs with hstate
    · exact .udpSentLast coalesced env hframes hsent hstate
    · exact .udpSent coalesced env hframes hsent hstate
  | startSend ret use =>
    obtain ⟨⟨hframes, -⟩, rfl⟩ := Machine.of_guard hs
    exact .startSend ret use hframes
  | connect env =>
    obtain ⟨hlive, rfl⟩ := Machine.of_guard_not hs
    exact .connect env (Bool.eq_false_of_not_eq_true hlive)
  | reset =>
    obtain ⟨hlive, rfl⟩ := Machine.of_guard_not hs
    exact .reset (Bool.eq_false_of_not_eq_true hlive)
  | close record =>
    obtain ⟨hlive, rfl⟩ := Machine.of_guard_not hs
    exact .close record (Bool.eq_false_of_not_eq_true hlive)
  | send sendCtx =>
    obtain ⟨-, rfl⟩ := Machine.of_guard_not hs
    rw [DtlsClient.asyncSendData]
    split_ifs with hstate
    · exact .sendRefused sendCtx hstate
    · exact .send sendCtx hstate
  | destroy =>
    obtain ⟨hmay, hs⟩ := Option.ite_none_right_eq_some.mp hs
    rw [Bool.and_eq_true, Bool.not_eq_true'] at hmay
    exact Option.some.inj hs ▸ .destroy hmay.1
  | ret =>
    cases hframes : ctx.frames with
    | nil => simp [hframes] at hs
    | cons rest frames =>
      simp only [hframes, Option.some.injEq] at hs
      exact hs ▸ .ret hframes

def CliEnv.event (env : CliEnv) : SslState → Option NpDtlsCliEvent
  | .connecting =>
    match env.handshake with
    | .wantReadWrite => none
    | .accessDenied => some .accessDenied
    | .error => some .closed
    | .done => some .handshakeComplete
  | .data =>
    match env.read with
    | .accessDenied => some .accessDenied
    | .error => some .closed
    | _ => none
  | .closing => none

def CliEnv.next (env : CliEnv) : SslState → SslState
  | .connecting =>
    match env.handshake with
    | .wantReadWrite => .connecting
    | .accessDenied | .error => .closing
    | .done => .data
  | .data =>
    match env.read with
    | .eof | .error => .closing
    | _ => .data
  | .closing => .closing

variable {env : CliEnv} {c : DtlsClient}

namespace DtlsClient

def called (ctx : DtlsClient) (env : CliEnv) : DtlsClient :=
  if ctx.state = .closing then ctx else ctx.mbedtls env.use

structure SameLink (ctx ctx' : DtlsClient) : Prop where
  state : ctx'.state = ctx.state
  sending : ctx'.sending = ctx.sending
  udpSends : ctx'.udpSends = ctx.udpSends
  destroyed : ctx'.destroyed = ctx.destroyed
  events : ctx'.events = ctx.events

theorem sameLink_resetLoop (ctx : DtlsClient) : SameLink ctx ctx.resetLoop := by
  unfold resetLoop
  cases ctx.sendList.waiting <;> exact ⟨rfl, rfl, rfl, rfl, rfl⟩

theorem sameLink_doFree (ctx : DtlsClient) : SameLink ctx ctx.doFree := by
  unfold doFree
  cases ctx.sendList.waiting <;> exact ⟨rfl, rfl, rfl, rfl, rfl⟩

/-- Only the end of `dtls_cli_close` delivers an event. -/
theorem sameLink_resume (ctx : DtlsClient) {rest : CliFrame} (h : rest ≠ .closeNotify) :
    SameLink ctx (ctx.resume rest) := by
  cases rest with
  | closeNotify => exact absurd rfl h
  | done | startSend => exact ⟨rfl, rfl, rfl, rfl, rfl⟩
  | reset => exact sameLink_resetLoop ctx
  | doFree => exact sameLink_doFree ctx
  | handlePacket =>
    unfold resume
    dsimp only
    split_ifs
    · obtain ⟨h1, h2, h3, h4, h5⟩ := sameLink_doFree { ctx with receiving := false }
      exact ⟨h1, h2, h3, h4, h5⟩
    · exact ⟨rfl, rfl, rfl, rfl, rfl⟩
  | udpSendCallback =>
    unfold resume
    dsimp only
    split_ifs
    · exact sameLink_doFree ctx
    · exact ⟨rfl, rfl, rfl, rfl, rfl⟩

theorem mbedtlsSend_only (ctx : DtlsClient) (record : RecordSend) :
    ctx.mbedtlsSend record = { ctx with
      sending := (ctx.mbedtlsSend record).sending,
        sslSendBuffer := (ctx.mbedtlsSend record).sslSendBuffer
      udpSends := (ctx.mbedtlsSend record).udpSends } := by
  unfold mbedtlsSend
  split_ifs
  · rfl
  · cases record <;> rfl

theorem mbedtls_only (ctx : DtlsClient) (use : MbedtlsUse) :
    (ctx.mbedtls use).state = ctx.state ∧ (ctx.mbedtls use).destroyed = ctx.destroyed ∧
      (ctx.mbedtls use).events = ctx.events ∧ (ctx.mbedtls use).sendList = ctx.sendList ∧
      (ctx.mbedtls use).startSendEvent = ctx.startSendEvent ∧
      (ctx.mbedtls use).frames = ctx.frames ∧ (ctx.mbedtls use).written = ctx.written ∧
      (ctx.mbedtls use).freed = ctx.freed := by
  unfold mbedtls
  rw [mbedtlsSend_only]
  exact ⟨rfl, rfl, rfl, rfl, rfl, rfl, rfl, rfl⟩

structure Linked (ctx ctx' : DtlsClient) (env : CliEnv) : Prop where
  state : ctx'.state = env.next ctx.state
  sending : ctx'.sending = (ctx.called env).sending
  udpSends : ctx'.udpSends = (ctx.called env).udpSends
  destroyed : ctx'.destroyed = ctx.destroyed
  events : ctx'.events = ctx.events ++ (env.event ctx.state).toList

/-- It is enough to know the context that has been called and what is delivered then. -/
theorem Linked.of_same {m : DtlsClient} (hs : SameLink m ctx')
    (hstate : m.state = env.next ctx.state)
    (hsending : m.sending = (ctx.called env).sending)
    (hudp : m.udpSends = (ctx.called env).udpSends)
    (hdestroyed : m.destroyed = ctx.destroyed)
    (hevents : m.events = ctx.events ++ (env.event ctx.state).toList) : Linked ctx ctx' env :=
  ⟨hs.state.trans hstate, hs.sending.trans hsending, hs.udpSends.trans hudp,
    hs.destroyed.trans hdestroyed, hs.events.trans hevents⟩

theorem linked_eventDoOne (ctx : DtlsClient) (env : CliEnv) {rest : CliFrame}
    (h : rest ≠ .closeNotify) : Linked ctx (ctx.eventDoOne env rest) env := by
  obtain ⟨hsame, hdestroyed, hevents, -⟩ := mbedtls_only ctx env.use
  have hnoEvent (ev : Option NpDtlsCliEvent) (hev : ev = none) :
      (ctx.mbedtls env.use).events = ctx.events ++ ev.toList := by simp [hev, hevents]
  unfold eventDoOne
  cases hstate : ctx.state with
  | connecting =>
    have hcalled : ctx.mbedtls env.use = ctx.called env := by simp [called, hstate]
    have hsending : (ctx.mbedtls env.use).sending = (ctx.called env).sending := by rw [hcalled]
    have hudp : (ctx.mbedtls env.use).udpSends = (ctx.called env).udpSends := by rw [hcalled]
    cases hret : env.handshake with
    | wantReadWrite =>
      apply Linked.of_same (sameLink_resume (ctx.mbedtls env.use) h)
      · rw [hsame, hstate, CliEnv.next, hret]
      · exact hsending
      · exact hudp
      · exact hdestroyed
      · exact hnoEvent _ (by rw [hstate, CliEnv.event, hret])
    | accessDenied | error | done =>
      refine ⟨by rw [hstate, CliEnv.next, hret]; rfl, hsending, hudp, hdestroyed, ?_⟩
      rw [hstate, CliEnv.event, hret, ← hevents]
      rfl
  | data =>
    have hcalled : ctx.mbedtls env.use = ctx.called env := by simp [called, hstate]
    have hsending : (ctx.mbedtls env.use).sending = (ctx.called env).sending := by rw [hcalled]
    have hudp : (ctx.mbedtls env.use).udpSends = (ctx.called env).udpSends := by rw [hcalled]
    cases hret : env.read with
    | eof =>
      apply Linked.of_same (sameLink_resume { ctx.mbedtls env.use with state := .closing } h)
      · rw [hstate, CliEnv.next, hret]
      · exact hsending
      · exact hudp
      · exact hdestroyed
      · exact hnoEvent _ (by rw [hstate, CliEnv.event, hret])
    | wantReadWrite =>
      apply Linked.of_same (sameLink_resume (ctx.mbedtls env.use) h)
      · rw [hsame, hstate, CliEnv.next, hret]
      · exact hsending
      · exact hudp
      · exact hdestroyed
      · exact hnoEvent _ (by rw [hstate, CliEnv.event, hret])
    | data buffer =>
      refine ⟨?_, hsending, hudp, hdestroyed, ?_⟩
      · rw [hstate, CliEnv.next, hret]
        exact hsame.trans hstate
      · exact hnoEvent _ (by rw [hstate, CliEnv.event, hret])
    | accessDenied | error =>
      refine ⟨?_, hsending, hudp, hdestroyed, ?_⟩
      · rw [hstate, CliEnv.next, hret]
        first | rfl | exact hsame.trans hstate
      · rw [hstate, CliEnv.event, hret, ← hevents]
        rfl
  | closing =>
    have hcalled : ctx.called env = ctx := by simp [called, hstate]
    apply Linked.of_same (sameLink_resume ctx h)
    · rw [hstate, CliEnv.next]
    · rw [hcalled]
    · rw [hcalled]
    · rfl
    · simp [hstate, CliEnv.event]

/-- The context and the answers with which an event makes the module call
`nm_dtls_event_do_one`. -/
def entry (ctx : DtlsClient) : DtlsClientEvent → Option (DtlsClient × CliEnv)
  | .packet env => some ({ ctx with receiving := true }, env)
  | .timer env => if ctx.state = .closing then none else some ({ ctx with timer := false }, env)
  | .udpSent coalesced env =>
    if ctx.state = .closing then none
    else some ({ ctx with
      udpSends := ctx.udpSends - (coalesced + 1), sending := false, sslSendBuffer := false }, env)
  | .connect env => some ({ ctx with state := .connecting, sending := false, events := [] }, env)
  | _ => none

/-- The step of an event with an entry is that of `nm_dtls_event_do_one`. -/
theorem step_of_entry (he : ctx.entry e = some (c, env)) (hs : dtlsClientStep ctx e = some ctx') :
    ctx' = c.eventDoOne env .done ∨ ctx' = c.eventDoOne env .handlePacket := by
  cases dtlsClientCase_of_step hs with
  | packet env' hframes =>
    obtain ⟨rfl, rfl⟩ := Prod.mk.inj (Option.some.inj he)
    exact Or.inr rfl
  | timer env' hframes hopen =>
    rw [entry, if_neg hopen] at he
    obtain ⟨rfl, rfl⟩ := Prod.mk.inj (Option.some.inj he)
    exact Or.inl rfl
  | udpSent coalesced env' hframes hsent hopen =>
    rw [entry, if_neg hopen] at he
    obtain ⟨rfl, rfl⟩ := Prod.mk.inj (Option.some.inj he)
    exact Or.inl rfl
  | connect env' hlive =>
    obtain ⟨rfl, rfl⟩ := Prod.mk.inj (Option.some.inj he)
    exact Or.inl rfl
  | timerClosing env' hframes hclosing | udpSentLast coalesced env' hframes hsent hclosing =>
    rw [entry, if_pos hclosing] at he
    cases he
  | startSend | reset | close | sendRefused | send | destroy | ret => cases he

theorem linked_step (he : ctx.entry e = some (c, env)) (hs : dtlsClientStep ctx e = some ctx') :
    Linked c ctx' env := by
  rcases step_of_entry he hs with rfl | rfl <;> exact linked_eventDoOne c env (by simp)

def closesAtOnce (ctx : DtlsClient) (record : RecordSend) : Bool :=
  ctx.state ≠ .closing && !(ctx.mbedtlsSend record).sending

def delivered (ctx : DtlsClient) (e : DtlsClientEvent) : Option NpDtlsCliEvent :=
  match ctx.entry e with
  | some (c, env) => env.event c.state
  | none =>
    match e with
    | .udpSent _ _ => some .closed
    | .close record => if ctx.closesAtOnce record then some .closed else none
    | .ret =>
      if ctx.frames.head? = some .closeNotify ∧ ctx.sending = false then some .closed else none
    | _ => none

theorem delivered_of_entry (he : ctx.entry e = some (c, env)) :
    ctx.delivered e = env.event c.state := by
  unfold delivered
  rw [he]

/-- How the link changes in a step that does not come to `nm_dtls_event_do_one`, and the
event that is delivered with it. -/
inductive Relinks (ctx ctx' : DtlsClient) : Option NpDtlsCliEvent → Prop
  | same (h : SameLink ctx ctx') : Relinks ctx ctx' none
  | writes {c : DtlsClient} (use : MbedtlsUse) (hopen : ctx.state ≠ .closing) (hc : SameLink ctx c)
      (h : SameLink (c.mbedtls use) ctx') : Relinks ctx ctx' none
  | waits (record : RecordSend) (hsending : (ctx.mbedtlsSend record).sending = true)
      (h : SameLink { ctx.mbedtlsSend record with state := .closing } ctx') : Relinks ctx ctx' none
  | destroys (h : SameLink { ctx with state := .closing, destroyed := true } ctx') :
      Relinks ctx ctx' none
  | closes {state : SslState} {udpSends : ℕ} (hstate : state = ctx.state ∨ state = .closing)
      (h : SameLink { ctx with
        state := state, sending := false, udpSends := udpSends, events := ctx.events ++
          [.closed] } ctx') :
      Relinks ctx ctx' (some .closed)

/-- The send function does not look at the state. -/
theorem mbedtlsSend_closing (ctx : DtlsClient) (record : RecordSend) :
    mbedtlsSend { ctx with state := .closing } record =
      { ctx.mbedtlsSend record with state := .closing } := by
  unfold mbedtlsSend
  dsimp only
  split_ifs
  · rfl
  · cases record <;> rfl

theorem state_close (ctx : DtlsClient) (record : RecordSend) :
    (ctx.close record).state = .closing := by
  unfold close
  by_cases hstate : ctx.state = .closing
  · rw [if_pos hstate]
    exact hstate
  rw [if_neg hstate]
  dsimp only
  rw [mbedtlsSend_closing]
  split_ifs <;> rfl

theorem relinks_close (ctx : DtlsClient) (record : RecordSend) :
    Relinks ctx (ctx.close record) (if ctx.closesAtOnce record then some .closed else none) := by
  unfold close
  by_cases hstate : ctx.state = .closing
  · rw [if_pos hstate, if_neg (by simp [closesAtOnce, hstate])]
    exact .same ⟨rfl, rfl, rfl, rfl, rfl⟩
  rw [if_neg hstate]
  dsimp only
  by_cases hrefused : record = .refused ∧ ctx.sslSendBuffer = false
  · -- the send function delivers the event
    have hatonce : ctx.closesAtOnce record = true := by
      simp [closesAtOnce, mbedtlsSend, hstate, hrefused.1, hrefused.2]
    rw [if_pos hrefused, if_pos hatonce]
    exact .closes (Or.inr rfl) ⟨rfl, rfl, rfl, rfl, rfl⟩
  rw [if_neg hrefused, mbedtlsSend_closing]
  dsimp only
  cases hsending : (ctx.mbedtlsSend record).sending with
  | true =>
    rw [if_pos rfl, if_neg (by simp [closesAtOnce, hsending])]
    exact .waits record hsending ⟨rfl, hsending.symm, rfl, rfl, rfl⟩
  | false =>
    have hatonce : ctx.closesAtOnce record = true := by simp [closesAtOnce, hstate, hsending]
    rw [if_neg (by simp), if_pos hatonce]
    rw [mbedtlsSend_only]
    exact .closes (Or.inr rfl) ⟨rfl, rfl, rfl, rfl, rfl⟩

/-- The deferred sender does nothing or takes the first context off the list. -/
theorem startSendDeferred_cases (ctx : DtlsClient) (ret : WriteRet) (use : MbedtlsUse) :
    ctx.startSendDeferred ret use = ctx ∧
        (ctx.state = .closing ∨ ctx.sending = true ∨ ctx.sendList.waiting = []) ∨
      ∃ next others sentCount, ctx.state ≠ .closing ∧ ctx.sendList.waiting = next :: others ∧
        ctx.startSendDeferred ret use = sendCb { ctx.mbedtls use with
          written := (ctx.mbedtls use).written ++ [next.number], sentCount := sentCount }
          next others (writeCode ret) .startSend := by
  unfold startSendDeferred
  by_cases hstate : ctx.state = .closing
  · exact Or.inl ⟨if_pos hstate, Or.inl hstate⟩
  by_cases hsending : ctx.sending = true
  · rw [if_neg hstate, if_pos hsending]
    exact Or.inl ⟨rfl, Or.inr (Or.inl hsending)⟩
  rw [if_neg hstate, if_neg hsending]
  cases hlist : ctx.sendList.waiting with
  | nil => exact Or.inl ⟨rfl, Or.inr (Or.inr rfl)⟩
  | cons next others => exact Or.inr ⟨next, others, _, hstate, rfl, rfl⟩

theorem relinks_startSend (ctx : DtlsClient) (ret : WriteRet) (use : MbedtlsUse) :
    Relinks ctx (startSendDeferred { ctx with startSendEvent := false } ret use) none := by
  have hfired : SameLink ctx { ctx with startSendEvent := false } := ⟨rfl, rfl, rfl, rfl, rfl⟩
  rcases startSendDeferred_cases { ctx with startSendEvent := false } ret use with
    ⟨heq, -⟩ | ⟨next, others, sentCount, hstate, -, heq⟩
  · rw [heq]
    exact .same hfired
  · rw [heq]
    exact .writes use hstate hfired ⟨rfl, rfl, rfl, rfl, rfl⟩

/-- Every other step. -/
theorem relinks_step (he : ctx.entry e = none) (hs : dtlsClientStep ctx e = some ctx') :
    Relinks ctx ctx' (ctx.delivered e) := by
  unfold delivered
  rw [he]
  cases dtlsClientCase_of_step hs with
  | packet env hframes | connect env hlive => cases he
  | timer env hframes hopen | udpSent coalesced env hframes hsent hopen =>
    rw [entry, if_neg hopen] at he
    cases he
  | timerClosing env hframes hclosing => exact .same ⟨rfl, rfl, rfl, rfl, rfl⟩
  | udpSentLast coalesced env hframes hsent hclosing =>
    exact .closes (Or.inl rfl) ⟨rfl, rfl, rfl, rfl, rfl⟩
  | startSend ret use hframes => exact relinks_startSend ctx ret use
  | reset hlive => exact .same (sameLink_resetLoop ctx)
  | close record hlive => exact relinks_close ctx record
  | sendRefused sendCtx hclosing | send sendCtx hopen => exact .same ⟨rfl, rfl, rfl, rfl, rfl⟩
  | destroy hlive =>
    unfold destroy
    dsimp only
    split_ifs
    · exact .destroys (sameLink_doFree _)
    · exact .destroys ⟨rfl, rfl, rfl, rfl, rfl⟩
  | @ret rest frames hframes =>
    by_cases hrest : rest = .closeNotify
    · -- the send function has returned into the close
      subst hrest
      unfold resume
      dsimp only
      by_cases hsending : ctx.sending = true
      · rw [if_pos hsending, if_neg (by simp [hsending])]
        exact .same ⟨rfl, rfl, rfl, rfl, rfl⟩
      · rw [if_neg hsending,
          if_pos ⟨by rw [hframes, List.head?_cons], Bool.eq_false_of_not_eq_true hsending⟩]
        exact .closes (Or.inl rfl) ⟨rfl, Bool.eq_false_of_not_eq_true hsending, rfl, rfl, rfl⟩
    · rw [hframes]
      simp only [List.head?_cons, Option.some.injEq, hrest, false_and, ite_false]
      obtain ⟨hstate, hsending, hudp, hdestroyed, hevents⟩ :=
        sameLink_resume { ctx with frames := frames } hrest
      exact .same ⟨hstate, hsending, hudp, hdestroyed, hevents⟩

/-- The events of the current connection before a step; `nm_dtls_connect` starts a new one. -/
def since (ctx : DtlsClient) : DtlsClientEvent → List NpDtlsCliEvent
  | .connect _ => []
  | _ => ctx.events

theorem since_cases (ctx : DtlsClient) (e : DtlsClientEvent) :
    ctx.since e = [] ∨ ctx.since e = ctx.events := by
  cases e with
  | connect env => exact Or.inl rfl
  | _ => exact Or.inr rfl

theorem entry_events (he : ctx.entry e = some (c, env)) : c.events = ctx.since e := by
  cases e with
  | packet env' | connect env' =>
    obtain ⟨rfl, -⟩ := Prod.mk.inj (Option.some.inj he)
    rfl
  | timer env' | udpSent coalesced env' =>
    obtain ⟨-, he⟩ := Option.ite_none_left_eq_some.mp he
    obtain ⟨rfl, -⟩ := Prod.mk.inj (Option.some.inj he)
    rfl
  | startSend ret use | reset | close record | send sendCtx | destroy | ret => cases he

theorem since_eq_of_entry_none (he : ctx.entry e = none) : ctx.since e = ctx.events := by
  cases e with
  | connect env => cases he
  | _ => rfl

/-- A step appends what it delivers. -/
theorem events_step (hs : dtlsClientStep ctx e = some ctx') :
    ctx'.events = ctx.since e ++ (ctx.delivered e).toList := by
  cases he : ctx.entry e with
  | some entered =>
    obtain ⟨c, env⟩ := entered
    rw [(linked_step he hs).events, entry_events he, delivered_of_entry he]
  | none =>
    rw [since_eq_of_entry_none he]
    cases hdel : ctx.delivered e with
    | none =>
      have hrelinks := hdel ▸ relinks_step he hs
      rw [Option.toList_none, List.append_nil]
      cases hrelinks with
      | same h => exact h.events
      | writes use hopen hc h => exact h.events.trans ((mbedtls_only _ use).2.2.1.trans hc.events)
      | waits record hsending h =>
        rw [mbedtlsSend_only] at h
        exact h.events
      | destroys h => exact h.events
    | some event =>
      have hrelinks := hdel ▸ relinks_step he hs
      cases hrelinks with
      | closes hstate h => exact h.events

/-- A packet that is being sent has its callback to come, and a destroyed client is closed. -/
structure Wired (ctx : DtlsClient) : Prop where
  sending : ctx.sending = true → 0 < ctx.udpSends
  destroyed : ctx.destroyed = true → ctx.state = .closing

theorem SameLink.wired (hs : SameLink ctx ctx') (h : ctx.Wired) : ctx'.Wired :=
  ⟨hs.sending ▸ hs.udpSends ▸ h.sending, hs.destroyed ▸ hs.state ▸ h.destroyed⟩

theorem sending_mbedtlsSend (record : RecordSend) (h : ctx.sending = true → 0 < ctx.udpSends) :
    (ctx.mbedtlsSend record).sending = true → 0 < (ctx.mbedtlsSend record).udpSends := by
  unfold mbedtlsSend
  by_cases hbuffer : ctx.sslSendBuffer = true
  · rw [if_pos hbuffer]
    exact h
  rw [if_neg hbuffer]
  cases record with
  | none => exact h
  | taken => exact fun _ => Nat.succ_pos _
  | refused => exact fun hsending => by cases hsending

theorem sending_called (env : CliEnv) (h : ctx.sending = true → 0 < ctx.udpSends) :
    (ctx.called env).sending = true → 0 < (ctx.called env).udpSends := by
  unfold called
  by_cases hstate : ctx.state = .closing
  · rw [if_pos hstate]
    exact h
  · rw [if_neg hstate]
    exact sending_mbedtlsSend env.use.record h

/-- A context that comes to `nm_dtls_event_do_one` is wired too. -/
theorem Wired.entry (h : ctx.Wired) (he : ctx.entry e = some (c, env))
    (hs : dtlsClientStep ctx e = some ctx') : c.Wired := by
  cases dtlsClientCase_of_step hs with
  | packet env' hframes =>
    obtain ⟨rfl, -⟩ := Prod.mk.inj (Option.some.inj he)
    exact ⟨h.sending, h.destroyed⟩
  | timer env' hframes hopen =>
    rw [DtlsClient.entry, if_neg hopen] at he
    obtain ⟨rfl, -⟩ := Prod.mk.inj (Option.some.inj he)
    exact ⟨h.sending, h.destroyed⟩
  | udpSent coalesced env' hframes hsent hopen =>
    rw [DtlsClient.entry, if_neg hopen] at he
    obtain ⟨rfl, -⟩ := Prod.mk.inj (Option.some.inj he)
    exact ⟨fun hsending => absurd hsending (by simp), h.destroyed⟩
  | connect env' hlive =>
    obtain ⟨rfl, -⟩ := Prod.mk.inj (Option.some.inj he)
    exact ⟨fun hsending => absurd hsending (by simp), fun hd => absurd hd (by simp [hlive])⟩
  | timerClosing env' hframes hclosing | udpSentLast coalesced env' hframes hsent hclosing =>
    rw [DtlsClient.entry, if_pos hclosing] at he
    cases he
  | startSend | reset | close | sendRefused | send | destroy | ret => cases he

theorem wired_step (h : ctx.Wired) (hs : dtlsClientStep ctx e = some ctx') : ctx'.Wired := by
  cases he : ctx.entry e with
  | some entered =>
    obtain ⟨c, env⟩ := entered
    have hc := h.entry he hs
    have hlinked := linked_step he hs
    constructor
    · rw [hlinked.sending, hlinked.udpSends]
      exact sending_called env hc.sending
    · rw [hlinked.destroyed, hlinked.state]
      intro hdestroyed
      rw [hc.destroyed hdestroyed]
      rfl
  | none =>
    have hrelinks := relinks_step he hs
    generalize ctx.delivered e = event at hrelinks
    cases hrelinks with
    | same hsame => exact hsame.wired h
    | @writes c use hopen hc hsame =>
      have hwired := hc.wired h
      obtain ⟨hstate, hdestroyed, -⟩ := mbedtls_only c use
      refine hsame.wired ⟨sending_mbedtlsSend use.record hwired.sending, ?_⟩
      rw [hstate, hdestroyed]
      exact hwired.destroyed
    | waits record hsending hsame =>
      exact hsame.wired ⟨sending_mbedtlsSend record h.sending, fun _ => rfl⟩
    | destroys hsame => exact hsame.wired ⟨h.sending, fun _ => rfl⟩
    | closes hstate hsame =>
      refine hsame.wired ⟨fun hsending => absurd hsending (by simp), fun hdestroyed => ?_⟩
      rcases hstate with rfl | rfl
      · exact h.destroyed hdestroyed
      · rfl

theorem wired_create : create.Wired := ⟨by simp [create], by simp [create]⟩

end DtlsClient

end NabtoDevice
