import NabtoDevice.Lib.Machine
import NabtoDevice.Sanity.DtlsServer
import Mathlib.Tactic.Common

/-! The send queue of a connection of the DTLS server module. -/

namespace NabtoDevice

def SrvFrame.servesList : SrvFrame → Bool
  | .sendCallback | .destroyConnection => true
  | .done | .handlePacket => false

variable {ctx : DtlsServer}

namespace DtlsServer

structure Idle (ctx : DtlsServer) : Prop where
  state : ctx.state = .data
  sending : ctx.sending = false
  waiting : ctx.sendList.waiting ≠ []
  event : ctx.startSendEvent = false

def Awake (ctx : DtlsServer) : Prop := ctx.Idle → ctx.frames.any (·.servesList) = true

/-- A step leaves the connection idle: the handshake is done when the event has run
before, a UDP send fails, or the sender takes a packet off the list of which nothing is sent. -/
def losesWakeup (ctx : DtlsServer) : DtlsServerEvent → Bool
  | .packet env | .timer env =>
    env.next ctx.state = .data && !ctx.sending && env.use.record ≠ .taken &&
      !ctx.sendList.waiting.isEmpty && !ctx.startSendEvent
  | .udpDone ok _ =>
    !ok && ctx.state = .data && !ctx.sendList.waiting.isEmpty && !ctx.startSendEvent
  | .startSend _ use =>
    ctx.state = .data && !ctx.sending && use.record ≠ .taken && 1 < ctx.sendList.waiting.length
  | _ => false

theorem Idle.not_awake (h : ctx.Idle) (hframes : ctx.frames = []) : ¬ ctx.Awake := by
  intro hawake
  have hany := hawake h
  rw [hframes] at hany
  cases hany

theorem awake_of_state (h : ctx.state ≠ .data) : ctx.Awake :=
  fun hidle => absurd hidle.state h

theorem awake_of_event (h : ctx.startSendEvent = true) : ctx.Awake :=
  fun hidle => absurd (h.symm.trans hidle.event) (by simp)

theorem awake_iff (h : ctx.frames.any (·.servesList) = false) :
    ctx.Awake ↔ (decide (ctx.state = .data) && !ctx.sending && !ctx.sendList.waiting.isEmpty &&
      !ctx.startSendEvent) = false := by
  have hidle : ctx.Idle ↔
    (decide (ctx.state = .data) && !ctx.sending && !ctx.sendList.waiting.isEmpty &&
      !ctx.startSendEvent) = true := by
    simp only [Bool.and_eq_true, decide_eq_true_eq, Bool.not_eq_true', List.isEmpty_eq_false_iff]
    exact ⟨fun hi => ⟨⟨⟨hi.state, hi.sending⟩, hi.waiting⟩, hi.event⟩,
      fun hi => ⟨hi.1.1.1, hi.1.1.2, hi.1.2, hi.2⟩⟩
  unfold Awake
  rw [hidle, h]
  simp

theorem sending_mbedtls (ctx : DtlsServer) (use : MbedtlsUse) :
    (ctx.mbedtls use).sending = (ctx.sending || decide (use.record = .taken)) := by
  unfold mbedtls mbedtlsSend
  cases hsending : ctx.sending with
  | true => exact hsending
  | false => cases use.record <;> simp [hsending]

theorem awake_doOne_iff {c ctx' : DtlsServer} {env : SrvModuleEnv} {rest : SrvFrame}
    (hlinked : Linked c ctx' env rest) (hrest : rest.servesList = false) (hframes : c.frames = []) :
    ctx'.Awake ↔ (decide (env.next c.state = .data) && !c.sending &&
      decide (env.use.record ≠ .taken) &&
      !c.sendList.waiting.isEmpty && !c.startSendEvent) = false := by
  have hnot : rest ≠ .sendCallback := by
    rintro rfl
    cases hrest
  have hgoesOn : ctx'.frames.any (·.servesList) = false ∧
      ctx'.startSendEvent = c.startSendEvent := by
    rcases hlinked.goesOn with ⟨hframes', hevent⟩ | ⟨hframes', hevent⟩
    · exact ⟨by simp [hframes', hframes, hrest], hevent⟩
    · exact ⟨by simp [hframes', hframes], by simpa [hnot] using hevent⟩
  rw [awake_iff hgoesOn.1, hlinked.state, hlinked.sending, hlinked.sendList, hgoesOn.2]
  by_cases hstate : c.state = .closing
  · simp [hstate, SrvModuleEnv.next]
  · rw [called, if_neg hstate, sending_mbedtls]
    simp [Bool.and_assoc]

theorem awake_udpDone {ctx' c : DtlsServer} {env : SrvModuleEnv}
    (h : Linked c ctx' env .sendCallback) : ctx'.Awake := by
  rcases h.goesOn with ⟨hframes, -⟩ | ⟨-, hevent⟩
  · intro _
    rw [hframes]
    rfl
  · exact awake_of_event (by simpa using hevent)

theorem awake_startSend_iff (ret : WriteRet) (use : MbedtlsUse) (hframes : ctx.frames = [])
    (hevent : ctx.startSendEvent = false) :
    (ctx.startSendDeferred ret use).Awake ↔ ctx.losesWakeup (.startSend ret use) = false := by
  unfold losesWakeup
  rcases startSendDeferred_cases ctx ret use with
    ⟨heq, hskip⟩ | ⟨next, others, sentCount, hlist, hsending, heq⟩
  · rw [heq, awake_iff (by simp [hframes])]
    rcases hskip with hsending | hempty
    · simp [hsending]
    · simp [hempty]
  · rw [heq, mbedtls_only, sending_mbedtls]
    rw [awake_iff (by simp [sendCb, hframes, SrvFrame.servesList])]
    cases others with
    | nil => simp [sendCb, TicketQueue.serve, hlist]
    | cons second others => simp [sendCb, TicketQueue.serve, hlist, hevent, hsending]

theorem awake_destroyLoop (ctx : DtlsServer) : ctx.destroyLoop.Awake := by
  unfold destroyLoop
  cases hlist : ctx.sendList.waiting with
  | nil => exact fun hidle => absurd hlist hidle.waiting
  | cons first others => exact fun _ => rfl

/-- Only a callback that returns can leave packets behind, and not one after which the
list is served. -/
theorem awake_resume {rest : SrvFrame} (h : rest.servesList = false → ctx.Awake) :
    (ctx.resume rest).Awake := by
  cases rest with
  | done | handlePacket => exact h rfl
  | sendCallback => exact awake_of_event rfl
  | destroyConnection => exact awake_destroyLoop ctx

theorem awake_step_iff {ctx' : DtlsServer} {e : DtlsServerEvent} (hwired : ctx.Wired)
    (h : ctx.Awake)
    (hs : dtlsServerStep ctx e = some ctx') : ctx'.Awake ↔ ctx.losesWakeup e = false := by
  cases dtlsServerCase_of_step hs with
  | packet env hframes => exact awake_doOne_iff (linked_doOne ctx env (by simp)) rfl hframes
  | timer env hframes =>
    have hlinked := linked_doOne { ctx with timer := false } env (show SrvFrame.done ≠ _ by simp)
    have hiff := awake_doOne_iff hlinked rfl hframes
    exact hiff
  | udpFailed env hframes =>
    rw [awake_iff (by simp [hframes])]
    simp [losesWakeup]
  | udpClosing env hclosing => exact ⟨fun _ => rfl, fun _ => awake_of_state (by simp [hclosing])⟩
  | udpDone env => exact ⟨fun _ => rfl, fun _ => awake_udpDone (linked_doOne _ env (by simp))⟩
  | startSend ret use hframes => exact awake_startSend_iff ret use hframes rfl
  | deferredEvent =>
    refine ⟨fun _ => rfl, fun _ hidle => ?_⟩
    unfold doEventCallback at hidle ⊢
    dsimp only at hidle ⊢
    split_ifs at hidle ⊢ with hwaits <;>
      exact h ⟨hidle.state, hidle.sending, hidle.waiting, hidle.event⟩
  | closeEvent hevent =>
    have hclosing := (hwired.closeEv hevent).2
    refine ⟨fun _ => rfl, fun _ => awake_of_state ?_⟩
    unfold eventClose
    dsimp only
    split_ifs <;> simp [tell, hclosing]
  | closeAgain record hclosing | sendRefused sendCtx hclosing =>
    exact ⟨fun _ => rfl, fun _ => awake_of_state (by simp [hclosing])⟩
  | close record =>
    refine ⟨fun _ => rfl, fun _ => awake_of_state ?_⟩
    rw [mbedtlsSend_only]
    simp
  | send => exact ⟨fun _ => rfl, fun _ => awake_of_event rfl⟩
  | destroy => exact ⟨fun _ => rfl, fun _ => awake_destroyLoop _⟩
  | ret hframes =>
    refine ⟨fun _ => rfl, fun _ => awake_resume fun hserves hidle => ?_⟩
    have hany := h ⟨hidle.state, hidle.sending, hidle.waiting, hidle.event⟩
    rw [hframes, List.any_cons, hserves, Bool.false_or] at hany
    exact hany

end DtlsServer

/-- Over every run of a DTLS server connection the packets queued in the open connection
have their event while nothing is being sent, if and only if no step leaves them without it. -/
theorem server_send_queue_awake_iff {evs : List DtlsServerEvent} {s : DtlsServer}
    (h : dtlsServer.Run evs s) :
    (∀ t, dtlsServer.Visits evs t → t.Awake) ↔
      ∀ t e, dtlsServer.Takes evs t e → t.losesWakeup e = false := by
  have hinit : dtlsServer.init.Awake :=
    DtlsServer.awake_of_state (by simp [dtlsServer, DtlsServer.createConnection])
  refine h.good_iff_takes DtlsServer.Wired DtlsServer.Awake _
    DtlsServer.wired_createConnection hinit ?_
  intro ctx e ctx' hwired hawake hs
  exact ⟨DtlsServer.awake_step_iff hwired hawake hs, fun _ => DtlsServer.wired_step hwired hs⟩

def acceptRun : List DtlsServerEvent :=
  [.packet { use := ⟨.taken, true⟩ }, .udpDone true {}, .packet { handshake := .done },
    .deferredEvent, .ret]

def sendTwoRun : List DtlsServerEvent :=
  acceptRun ++ [.send 1, .send 2, .startSend .written ⟨.taken, false⟩, .ret, .udpDone true {},
    .startSend .written ⟨.taken, false⟩, .ret, .udpDone true {}]

theorem server_send_queue_awake_two :
    (dtlsServer.exec sendTwoRun).map (·.sendList.served) = some [(0, .ok), (1, .ok)] ∧
      ∀ t, dtlsServer.Visits sendTwoRun t → t.Awake := by
  have hr : dtlsServer.Run sendTwoRun _ := Machine.run_of_exec rfl
  refine ⟨by decide +kernel, (server_send_queue_awake_iff hr).mpr fun t e ht => ?_⟩
  exact Machine.takes_eq_false_of_allTaken (by decide +kernel) ht

/-- The first of two packets is too large to be written. Nothing looks at the second one. -/
theorem packet_behind_failed_write_waits :
    ∃ s, dtlsServer.Run (acceptRun ++ [.send 1, .send 2, .startSend .badInputData {}, .ret]) s ∧
      s.frames = [] ∧ s.sendList.served = [(0, .malformedPacket)] ∧ s.Idle ∧ ¬ s.Awake := by
  refine ⟨_, Machine.run_of_exec rfl, rfl, by decide +kernel, ?_⟩
  refine ⟨⟨by decide +kernel, by decide +kernel, by decide +kernel, by decide +kernel⟩, ?_⟩
  exact DtlsServer.Idle.not_awake
    ⟨by decide +kernel, by decide +kernel, by decide +kernel, by decide +kernel⟩ rfl

end NabtoDevice
