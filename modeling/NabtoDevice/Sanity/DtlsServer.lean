import NabtoDevice.Spec.DtlsServer
import Mathlib.Tactic.Common

/-! What a step of a connection of the DTLS server module does to its link: the state and
the ways in which the owner is told that the connection has closed. -/

namespace NabtoDevice

inductive DtlsServerCase (ctx : DtlsServer) : DtlsServerEvent → DtlsServer → Prop
  | packet (env : SrvModuleEnv) (hframes : ctx.frames = []) :
      DtlsServerCase ctx (.packet env) (ctx.doOne env .handlePacket)
  | timer (env : SrvModuleEnv) (hframes : ctx.frames = []) :
      DtlsServerCase ctx (.timer env) (DtlsServer.doOne { ctx with timer := false } env .done)
  | udpFailed (env : SrvModuleEnv) (hframes : ctx.frames = []) :
      DtlsServerCase ctx (.udpDone false env) { ctx with sending := false }
  | udpClosing (env : SrvModuleEnv) (hclosing : ctx.state = .closing) :
      DtlsServerCase ctx (.udpDone true env) { ctx with sending := false }
  | udpDone (env : SrvModuleEnv) (hframes : ctx.frames = []) (hopen : ctx.state ≠ .closing) :
      DtlsServerCase ctx (.udpDone true env)
        (DtlsServer.doOne { ctx with sending := false } env .sendCallback)
  | startSend (ret : WriteRet) (use : MbedtlsUse) (hframes : ctx.frames = []) :
      DtlsServerCase ctx (.startSend ret use)
        (DtlsServer.startSendDeferred { ctx with startSendEvent := false } ret use)
  | deferredEvent (hevent : ctx.deferredEventEvent = true) :
      DtlsServerCase ctx .deferredEvent (DtlsServer.doEventCallback
        { ctx with deferredEventEvent := false })
  | closeEvent (hevent : ctx.closeEv = true) :
      DtlsServerCase ctx .closeEvent (DtlsServer.eventClose { ctx with closeEv := false })
  | closeAgain (record : RecordSend) (hclosing : ctx.state = .closing) :
      DtlsServerCase ctx (.close record) ctx
  | close (record : RecordSend) (hopen : ctx.state ≠ .closing) :
      DtlsServerCase ctx (.close record)
        { DtlsServer.mbedtlsSend { ctx with closeCb := true, state := .closing } record with
          closeEv := true }
  | sendRefused (sendCtx : ℕ) (hclosing : ctx.state = .closing) :
      DtlsServerCase ctx (.send sendCtx) { ctx with sendList := ctx.sendList.refuse }
  | send (sendCtx : ℕ) (hopen : ctx.state ≠ .closing) :
      DtlsServerCase ctx (.send sendCtx)
        { ctx with sendList := ctx.sendList.accept sendCtx, startSendEvent := true }
  | destroy : DtlsServerCase ctx .destroy (DtlsServer.destroyLoop { ctx with state := .closing })
  | ret {rest : SrvFrame} {frames : List SrvFrame} (hframes : ctx.frames = rest :: frames) :
      DtlsServerCase ctx .ret (DtlsServer.resume { ctx with frames := frames } rest)

variable {ctx ctx' : DtlsServer} {e : DtlsServerEvent}

theorem dtlsServerCase_of_step (hs : dtlsServerStep ctx e = some ctx') :
    DtlsServerCase ctx e ctx' := by
  obtain ⟨-, hs⟩ := Option.ite_none_left_eq_some.mp hs
  cases e with
  | packet env =>
    obtain ⟨hframes, rfl⟩ := Machine.of_guard hs
    exact .packet env hframes
  | timer env =>
    obtain ⟨⟨hframes, -⟩, rfl⟩ := Machine.of_guard hs
    exact .timer env hframes
  | udpDone ok env =>
    obtain ⟨⟨hframes, -⟩, rfl⟩ := Machine.of_guard hs
    rw [DtlsServer.connectionSendCallback]
    cases ok with
    | false => exact .udpFailed env hframes
    | true =>
      dsimp only
      rw [if_neg (by simp)]
      split_ifs with hstate
      · exact .udpClosing env hstate
      · exact .udpDone env hframes hstate
  | startSend ret use =>
    obtain ⟨⟨hframes, -⟩, rfl⟩ := Machine.of_guard hs
    exact .startSend ret use hframes
  | deferredEvent =>
    obtain ⟨⟨-, hevent⟩, rfl⟩ := Machine.of_guard hs
    exact .deferredEvent hevent
  | closeEvent =>
    obtain ⟨⟨-, hevent⟩, rfl⟩ := Machine.of_guard hs
    exact .closeEvent hevent
  | close record =>
    rw [← Option.some.inj hs, DtlsServer.asyncClose]
    split_ifs with hstate
    · exact .closeAgain record hstate
    · exact .close record hstate
  | send sendCtx =>
    obtain ⟨-, rfl⟩ := Machine.of_guard_not hs
    rw [DtlsServer.asyncSendData]
    split_ifs with hstate
    · exact .sendRefused sendCtx hstate
    · exact .send sendCtx hstate
  | destroy =>
    obtain ⟨-, rfl⟩ := Machine.of_guard hs
    exact .destroy
  | ret =>
    cases hframes : ctx.frames with
    | nil => simp [hframes] at hs
    | cons rest frames =>
      simp only [hframes, Option.some.injEq] at hs
      exact hs ▸ .ret hframes

def SrvNotice.isTerminal : SrvNotice → Bool
  | .event .closed | .closeCb => true
  | .event .handshakeComplete => false

def SrvModuleEnv.deferred (env : SrvModuleEnv) : SslState → Option NpDtlsSrvEvent
  | .connecting =>
    match env.handshake with
    | .wantReadWrite => none
    | .done => some .handshakeComplete
    | .timeout | .error => some .closed
  | .data =>
    match env.read with
    | .closeNotify | .error => some .closed
    | _ => none
  | .closing => none

def SrvModuleEnv.next (env : SrvModuleEnv) : SslState → SslState
  | .connecting =>
    match env.handshake with
    | .wantReadWrite => .connecting
    | .done => .data
    | .timeout | .error => .closing
  | .data =>
    match env.read with
    | .eof | .closeNotify | .error => .closing
    | _ => .data
  | .closing => .closing

variable {rest : SrvFrame} {c : DtlsServer} {env : SrvModuleEnv}

namespace DtlsServer

def called (ctx : DtlsServer) (env : SrvModuleEnv) : DtlsServer :=
  if ctx.state = .closing then ctx else ctx.mbedtls env.use

def destroying (ctx : DtlsServer) : Bool := ctx.freed || ctx.frames.any (· = .destroyConnection)

theorem mbedtlsSend_only (ctx : DtlsServer) (record : RecordSend) :
    ctx.mbedtlsSend record = { ctx with sending := (ctx.mbedtlsSend record).sending } := by
  unfold mbedtlsSend
  split_ifs
  · rfl
  · cases record <;> rfl

theorem mbedtls_only (ctx : DtlsServer) (use : MbedtlsUse) :
    ctx.mbedtls use = { ctx with sending := (ctx.mbedtls use).sending, timer := use.timer } := by
  unfold mbedtls
  rw [mbedtlsSend_only]

structure Linked (ctx ctx' : DtlsServer) (env : SrvModuleEnv) (rest : SrvFrame) : Prop where
  state : ctx'.state = env.next ctx.state
  sending : ctx'.sending = (ctx.called env).sending
  deferredEvent : ctx'.deferredEvent = (env.deferred ctx.state).getD ctx.deferredEvent
  deferredEventEvent : ctx'.deferredEventEvent =
    ((env.deferred ctx.state).isSome || ctx.deferredEventEvent)
  closeEv : ctx'.closeEv = ctx.closeEv
  closeCb : ctx'.closeCb = ctx.closeCb
  notices : ctx'.notices = ctx.notices
  sendList : ctx'.sendList = ctx.sendList
  written : ctx'.written = ctx.written
  freed : ctx'.freed = ctx.freed
  goesOn : ctx'.frames = rest :: ctx.frames ∧ ctx'.startSendEvent = ctx.startSendEvent ∨
    ctx'.frames = ctx.frames ∧
      ctx'.startSendEvent = (decide (rest = .sendCallback) || ctx.startSendEvent)

theorem resume_eq (ctx : DtlsServer) (h : rest ≠ .destroyConnection) :
    ctx.resume rest = { ctx with startSendEvent := decide (rest = .sendCallback) ||
      ctx.startSendEvent } := by
  cases rest with
  | done | handlePacket | sendCallback => rfl
  | destroyConnection => exact absurd rfl h

theorem linked_doOne (ctx : DtlsServer) (env : SrvModuleEnv) (h : rest ≠ .destroyConnection) :
    Linked ctx (ctx.doOne env rest) env rest := by
  unfold doOne
  cases hstate : ctx.state with
  | connecting =>
    have hcalled : ctx.called env = ctx.mbedtls env.use := by simp [called, hstate]
    cases hret : env.handshake with
    | wantReadWrite | done | timeout | error =>
      dsimp only
      rw [resume_eq _ h, mbedtls_only]
      constructor <;> simp [hstate, hret, hcalled, SrvModuleEnv.next, SrvModuleEnv.deferred,
        deferredEventCallback]
  | data =>
    have hcalled : ctx.called env = ctx.mbedtls env.use := by simp [called, hstate]
    cases hret : env.read with
    | data sequence buffer =>
      dsimp only [dataHandler]
      rw [mbedtls_only]
      constructor <;> simp [hstate, hret, hcalled, SrvModuleEnv.next, SrvModuleEnv.deferred]
    | eof | wantReadWrite | closeNotify | error =>
      dsimp only
      rw [resume_eq _ h, mbedtls_only]
      constructor <;> simp [hstate, hret, hcalled, SrvModuleEnv.next, SrvModuleEnv.deferred,
        deferredEventCallback]
  | closing =>
    have hcalled : ctx.called env = ctx := by simp [called, hstate]
    dsimp only
    rw [resume_eq _ h]
    constructor <;> simp [hstate, hcalled, SrvModuleEnv.next, SrvModuleEnv.deferred]

/-- The connection, the answers and the function behind it with which an event makes the
module call `nm_mbedtls_srv_do_one`. -/
def entry (ctx : DtlsServer) : DtlsServerEvent → Option (DtlsServer × SrvModuleEnv × SrvFrame)
  | .packet env => some (ctx, env, .handlePacket)
  | .timer env => some ({ ctx with timer := false }, env, .done)
  | .udpDone ok env =>
    if ok = true ∧ ctx.state ≠ .closing then
      some ({ ctx with sending := false }, env, .sendCallback) else none
  | _ => none

theorem linked_step (he : ctx.entry e = some (c, env, rest))
    (hs : dtlsServerStep ctx e = some ctx') : Linked c ctx' env rest := by
  cases dtlsServerCase_of_step hs with
  | packet | timer =>
    cases he
    exact linked_doOne _ _ (by simp)
  | udpDone env' hframes hopen =>
    rw [entry, if_pos ⟨rfl, hopen⟩] at he
    cases he
    exact linked_doOne _ _ (by simp)
  | udpFailed => simp [entry] at he
  | udpClosing env' hclosing => simp [entry, hclosing] at he
  | startSend | deferredEvent | closeEvent | closeAgain | close | sendRefused | send | destroy
  | ret => cases he

/-- The event queue comes to the connection outside of all callbacks. -/
theorem frames_of_entry (he : ctx.entry e = some (c, env, rest))
    (hs : dtlsServerStep ctx e = some ctx') :
    c = { ctx with sending := c.sending, timer := c.timer } ∧ ctx.frames = [] ∧
      rest ≠ .destroyConnection := by
  cases dtlsServerCase_of_step hs with
  | packet env' hframes | timer env' hframes =>
    cases he
    exact ⟨rfl, hframes, by simp⟩
  | udpDone env' hframes hopen =>
    rw [entry, if_pos ⟨rfl, hopen⟩] at he
    cases he
    exact ⟨rfl, hframes, by simp⟩
  | udpFailed => simp [entry] at he
  | udpClosing env' hclosing => simp [entry, hclosing] at he
  | startSend | deferredEvent | closeEvent | closeAgain | close | sendRefused | send | destroy
  | ret => cases he

structure SameLink (ctx ctx' : DtlsServer) : Prop where
  state : ctx'.state = ctx.state
  deferredEvent : ctx'.deferredEvent = ctx.deferredEvent
  deferredEventEvent : ctx'.deferredEventEvent = ctx.deferredEventEvent
  closeEv : ctx'.closeEv = ctx.closeEv
  closeCb : ctx'.closeCb = ctx.closeCb
  notices : ctx'.notices = ctx.notices
  destroying : ctx'.destroying = ctx.destroying

/-- How the link changes in a step that does not come to `nm_mbedtls_srv_do_one`. -/
inductive Relinks (ctx ctx' : DtlsServer) : Prop
  | same (h : SameLink ctx ctx')
  | tells (hevent : ctx.deferredEventEvent = true)
      (h : SameLink { ctx with
        deferredEventEvent := false, notices := ctx.notices ++ [.event ctx.deferredEvent] } ctx')
  | closed (hevent : ctx.closeEv = true)
      (h : SameLink { ctx with
        closeEv := false, deferredEventEvent := false, closeCb := false
        notices := if ctx.closeCb then ctx.notices ++ [.closeCb] else ctx.notices } ctx')
  | closes (hopen : ctx.state ≠ .closing)
      (h : SameLink { ctx with state := .closing, closeCb := true, closeEv := true } ctx')
  | destroys (hstate : ctx'.state = .closing) (hdestroying : ctx'.destroying = true)
      (hclose : ctx'.closeEv = true → ctx.closeEv = true ∧ ctx'.closeCb = ctx.closeCb)

theorem relinks_destroyLoop (hstate : c.state = .closing)
    (hclose : c.closeEv = true → ctx.closeEv = true ∧ c.closeCb = ctx.closeCb) :
    Relinks ctx c.destroyLoop := by
  unfold destroyLoop
  cases c.sendList.waiting with
  | nil => exact .destroys hstate rfl (fun h => by cases h)
  | cons first others => exact .destroys hstate (by simp [destroying, sendCb]) hclose

/-- The sender does nothing or takes the first context off the list. -/
theorem startSendDeferred_cases (ctx : DtlsServer) (ret : WriteRet) (use : MbedtlsUse) :
    ctx.startSendDeferred ret use = ctx ∧ (ctx.sending = true ∨ ctx.sendList.waiting = []) ∨
      ∃ next others sentCount, ctx.sendList.waiting = next :: others ∧
        ctx.sending = false ∧
        ctx.startSendDeferred ret use = sendCb { ctx.mbedtls use with
          written := (ctx.mbedtls use).written ++ [next.number], sentCount := sentCount }
          next others (DtlsClient.writeCode ret) .done := by
  unfold startSendDeferred
  cases hsending : ctx.sending with
  | true => exact Or.inl ⟨rfl, Or.inl rfl⟩
  | false =>
    rw [if_neg (by simp)]
    cases hlist : ctx.sendList.waiting with
    | nil => exact Or.inl ⟨rfl, Or.inr rfl⟩
    | cons next others => exact Or.inr ⟨next, others, _, rfl, rfl, rfl⟩

theorem relinks_step (he : ctx.entry e = none)
    (hdestroying : ctx.destroying = true → ctx.state = .closing)
    (hs : dtlsServerStep ctx e = some ctx') : Relinks ctx ctx' := by
  cases dtlsServerCase_of_step hs with
  | packet | timer => cases he
  | udpDone env hframes hopen =>
    rw [entry, if_pos ⟨rfl, hopen⟩] at he
    cases he
  | udpFailed | udpClosing | closeAgain | sendRefused | send =>
    exact .same ⟨rfl, rfl, rfl, rfl, rfl, rfl, rfl⟩
  | startSend ret use =>
    rcases startSendDeferred_cases { ctx with startSendEvent := false } ret use with
      ⟨heq, -⟩ | ⟨next, others, sentCount, -, -, heq⟩
    · rw [heq]
      exact .same ⟨rfl, rfl, rfl, rfl, rfl, rfl, rfl⟩
    · rw [heq, mbedtls_only]
      exact .same ⟨rfl, rfl, rfl, rfl, rfl, rfl, by simp [destroying, sendCb]⟩
  | deferredEvent hevent =>
    unfold doEventCallback
    dsimp only
    split_ifs
    · exact .same ⟨rfl, rfl, hevent.symm, rfl, rfl, rfl, rfl⟩
    · exact .tells hevent ⟨rfl, rfl, rfl, rfl, rfl, rfl, by simp [destroying, tell]⟩
  | closeEvent hevent =>
    unfold eventClose
    dsimp only
    cases hsending : ctx.sending with
    | true => exact .same ⟨rfl, rfl, rfl, hevent.symm, rfl, rfl, rfl⟩
    | false =>
      cases hcb : ctx.closeCb with
      | true =>
        exact .closed hevent
          ⟨rfl, rfl, rfl, rfl, rfl, by simp [tell, hcb], by simp [destroying, tell]⟩
      | false => exact .closed hevent ⟨rfl, rfl, rfl, rfl, rfl, by simp [hcb], rfl⟩
  | close record hopen =>
    rw [mbedtlsSend_only]
    exact .closes hopen ⟨rfl, rfl, rfl, rfl, rfl, rfl, rfl⟩
  | destroy => exact relinks_destroyLoop rfl fun h => ⟨h, rfl⟩
  | @ret rest frames hframes =>
    by_cases hrest : rest = .destroyConnection
    · subst hrest
      have hclosing := hdestroying (by simp [destroying, hframes])
      exact relinks_destroyLoop hclosing fun h => ⟨h, rfl⟩
    · rw [resume_eq _ hrest]
      exact .same ⟨rfl, rfl, rfl, rfl, rfl, rfl, by simp [destroying, hframes, hrest]⟩

structure Wired (ctx : DtlsServer) : Prop where
  closeEv : ctx.closeEv = true → ctx.closeCb = true ∧ ctx.state = .closing
  untold : ctx.state ≠ .closing → ctx.notices.any (·.isTerminal) = false
  deferred : ctx.state ≠ .closing → ctx.deferredEventEvent = true →
    ctx.deferredEvent = .handshakeComplete
  destroying : ctx.destroying = true → ctx.state = .closing

theorem wired_createConnection : createConnection.Wired where
  closeEv h := absurd h (by simp [createConnection])
  untold _ := rfl
  deferred _ h := absurd h (by simp [createConnection])
  destroying h := absurd h (by simp [createConnection, DtlsServer.destroying])

theorem SameLink.wired (hs : SameLink ctx ctx') (h : ctx.Wired) : ctx'.Wired where
  closeEv := by
    rw [hs.closeEv, hs.closeCb, hs.state]
    exact h.closeEv
  untold := by
    rw [hs.state, hs.notices]
    exact h.untold
  deferred := by
    rw [hs.state, hs.deferredEventEvent, hs.deferredEvent]
    exact h.deferred
  destroying := by
    rw [hs.destroying, hs.state]
    exact h.destroying

/-- A connection that stays open defers no `CLOSED`. -/
theorem deferred_of_open {state : SslState} {event : NpDtlsSrvEvent}
    (hnext : env.next state ≠ .closing)
    (hdeferred : env.deferred state = some event) : event = .handshakeComplete := by
  cases state with
  | connecting =>
    rw [SrvModuleEnv.deferred] at hdeferred
    rw [SrvModuleEnv.next] at hnext
    cases hret : env.handshake with
    | wantReadWrite => simp [hret] at hdeferred
    | done => simpa [hret] using hdeferred.symm
    | timeout | error => simp [hret] at hnext
  | data =>
    rw [SrvModuleEnv.deferred] at hdeferred
    rw [SrvModuleEnv.next] at hnext
    cases hret : env.read with
    | eof | closeNotify | error => simp [hret] at hnext
    | data sequence buffer | wantReadWrite => simp [hret] at hdeferred
  | closing => cases hdeferred

theorem Linked.destroying (h : Linked c ctx' env rest) (hrest : rest ≠ .destroyConnection) :
    ctx'.destroying = c.destroying := by
  unfold DtlsServer.destroying
  rw [h.freed]
  rcases h.goesOn with ⟨hframes, -⟩ | ⟨hframes, -⟩
  · simp [hframes, hrest]
  · rw [hframes]

theorem Linked.wired (h : Linked c ctx' env rest) (hrest : rest ≠ .destroyConnection)
    (hc : c.Wired) : ctx'.Wired := by
  have hopen (hne : ctx'.state ≠ .closing) : c.state ≠ .closing := by
    rintro hclosing
    rw [h.state, hclosing] at hne
    exact hne rfl
  constructor
  · rw [h.closeEv, h.closeCb, h.state]
    intro hevent
    obtain ⟨hcb, hclosing⟩ := hc.closeEv hevent
    exact ⟨hcb, by rw [hclosing]; rfl⟩
  · intro hne
    rw [h.notices]
    exact hc.untold (hopen hne)
  · intro hne hevent
    rw [h.deferredEventEvent] at hevent
    rw [h.deferredEvent]
    rw [h.state] at hne
    cases hdeferred : env.deferred c.state with
    | none =>
      rw [hdeferred] at hevent
      exact hc.deferred (hopen (h.state ▸ hne)) (by simpa using hevent)
    | some event => exact deferred_of_open hne hdeferred
  · rw [h.destroying hrest, h.state]
    intro hdestroying
    rw [hc.destroying hdestroying]
    rfl

theorem wired_step (h : ctx.Wired) (hs : dtlsServerStep ctx e = some ctx') : ctx'.Wired := by
  cases he : ctx.entry e with
  | some entered =>
    obtain ⟨c, env, rest⟩ := entered
    obtain ⟨hc, -, hrest⟩ := frames_of_entry he hs
    have hwired : c.Wired := by
      rw [hc]
      exact ⟨h.closeEv, h.untold, h.deferred, h.destroying⟩
    exact (linked_step he hs).wired hrest hwired
  | none =>
    cases relinks_step he h.destroying hs with
    | same hsame => exact hsame.wired h
    | tells hevent hsame =>
      refine hsame.wired
        ⟨h.closeEv, fun hopen => ?_, fun _ hfalse => absurd hfalse (by simp), h.destroying⟩
      rw [List.any_append, h.untold hopen, h.deferred hopen hevent]
      rfl
    | closed hevent hsame =>
      have hclosing := (h.closeEv hevent).2
      exact hsame.wired ⟨fun hfalse => absurd hfalse (by simp), fun hopen => absurd hclosing hopen,
        fun hopen => absurd hclosing hopen, h.destroying⟩
    | closes hopen hsame =>
      exact hsame.wired
        ⟨fun _ => ⟨rfl, rfl⟩, fun hne => absurd rfl hne, fun hne => absurd rfl hne, fun _ => rfl⟩
    | destroys hstate hdestroying hclose =>
      refine ⟨fun hevent => ?_, fun hne => absurd hstate hne, fun hne => absurd hstate hne,
        fun _ => hstate⟩
      obtain ⟨hbefore, hcb⟩ := hclose hevent
      exact ⟨hcb.trans (h.closeEv hbefore).1, hstate⟩

end DtlsServer

end NabtoDevice
