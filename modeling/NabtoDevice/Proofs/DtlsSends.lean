import NabtoDevice.Lib.Machine
import NabtoDevice.Lib.TicketQueue
import NabtoDevice.Proofs.DtlsClient
import NabtoDevice.Proofs.DtlsServer
import Mathlib.Tactic.Common

/-! The send contexts of the two DTLS modules. Whatever a step does, it changes the send
list in one of the ways of `TicketQueue.Moves`: a context is accepted, refused, dropped
with an error, or given to `mbedtls_ssl_write`. -/

namespace NabtoDevice

variable (ctx : DtlsClient)

namespace DtlsClient

def Serves (ctx ctx' : DtlsClient) : Prop :=
  ctx.sendList.Moves ctx.written ctx'.sendList ctx'.written ∧
    (ctx'.freed = true → ctx.freed = true ∨ ctx'.sendList.waiting = [])

theorem serves_same : Serves ctx ctx := ⟨.same, Or.inl⟩

theorem serves_resetLoop : Serves ctx ctx.resetLoop := by
  unfold resetLoop
  cases hlist : ctx.sendList.waiting with
  | nil => exact serves_same ctx
  | cons first others => exact ⟨.drop hlist _, Or.inl⟩

theorem serves_doFree : Serves ctx ctx.doFree := by
  unfold doFree
  cases hlist : ctx.sendList.waiting with
  | nil => exact ⟨.same, fun _ => Or.inr hlist⟩
  | cons first others => exact ⟨.drop hlist _, Or.inl⟩

theorem serves_resume (rest : CliFrame) : Serves ctx (ctx.resume rest) := by
  cases rest with
  | done | startSend => exact serves_same ctx
  | reset => exact serves_resetLoop ctx
  | doFree => exact serves_doFree ctx
  | handlePacket =>
    unfold resume
    dsimp only
    split_ifs
    · exact serves_doFree { ctx with receiving := false }
    · exact serves_same ctx
  | udpSendCallback =>
    unfold resume
    dsimp only
    split_ifs
    · exact serves_doFree ctx
    · exact serves_same ctx
  | closeNotify =>
    unfold resume
    dsimp only
    split_ifs <;> exact serves_same ctx

theorem serves_of_mbedtls {ctx ctx' : DtlsClient} (use : MbedtlsUse)
    (h : Serves (ctx.mbedtls use) ctx') : Serves ctx ctx' := by
  obtain ⟨-, -, -, hlist, -, -, hwritten, hfreed⟩ := mbedtls_only ctx use
  obtain ⟨hmoves, hfrees⟩ := h
  rw [hlist, hwritten] at hmoves
  rw [hfreed] at hfrees
  exact ⟨hmoves, hfrees⟩

theorem serves_eventDoOne (env : CliEnv) (rest : CliFrame) :
    Serves ctx (ctx.eventDoOne env rest) := by
  unfold eventDoOne
  cases ctx.state with
  | connecting =>
    apply serves_of_mbedtls env.use
    cases env.handshake with
    | wantReadWrite => exact serves_resume _ rest
    | accessDenied | error | done => exact serves_same (ctx.mbedtls env.use)
  | data =>
    apply serves_of_mbedtls env.use
    cases env.read with
    | eof => exact serves_resume { ctx.mbedtls env.use with state := .closing } rest
    | wantReadWrite => exact serves_resume _ rest
    | data buffer | accessDenied | error => exact serves_same (ctx.mbedtls env.use)
  | closing => exact serves_resume ctx rest

theorem serves_startSend (ret : WriteRet) (use : MbedtlsUse) :
    Serves ctx (ctx.startSendDeferred ret use) := by
  rcases startSendDeferred_cases ctx ret use with
    ⟨heq, -⟩ | ⟨next, others, sentCount, -, hlist, heq⟩
  · rw [heq]
    exact serves_same ctx
  · rw [heq]
    apply serves_of_mbedtls use
    have hsame : (ctx.mbedtls use).sendList = ctx.sendList := (mbedtls_only ctx use).2.2.2.1
    exact ⟨.hand (hsame ▸ hlist) _, Or.inl⟩

theorem serves_close (record : RecordSend) : Serves ctx (ctx.close record) := by
  unfold close
  dsimp only
  rw [mbedtlsSend_only]
  split_ifs <;> exact serves_same ctx

theorem serves_step {ctx ctx' : DtlsClient} {e : DtlsClientEvent}
    (hs : dtlsClientStep ctx e = some ctx') : Serves ctx ctx' := by
  cases dtlsClientCase_of_step hs with
  | packet env => exact serves_eventDoOne { ctx with receiving := true } env _
  | timerClosing | udpSentLast => exact serves_same ctx
  | timer env => exact serves_eventDoOne { ctx with timer := false } env _
  | udpSent coalesced env =>
    exact serves_eventDoOne { ctx with
      udpSends := ctx.udpSends - (coalesced + 1), sending := false, sslSendBuffer := false } env _
  | startSend ret use => exact serves_startSend { ctx with startSendEvent := false } ret use
  | connect env =>
    exact serves_eventDoOne { ctx with state := .connecting, sending := false, events := [] } env _
  | reset => exact serves_resetLoop ctx
  | close record => exact serves_close ctx record
  | sendRefused => exact ⟨.refuse, Or.inl⟩
  | send sendCtx => exact ⟨.accept sendCtx, Or.inl⟩
  | destroy =>
    unfold destroy
    dsimp only
    split_ifs
    · exact serves_doFree { ctx with state := .closing, destroyed := true }
    · exact serves_same ctx
  | @ret rest frames => exact serves_resume { ctx with frames := frames } rest

/-- `nm_mbedtls_cli_reset` returns in a step: at once, or after the last callback of its loop. -/
def ResetReturns (ctx : DtlsClient) (e : DtlsClientEvent) (ctx' : DtlsClient) : Prop :=
  e = .reset ∧ ctx'.frames = ctx.frames ∨ e = .ret ∧ ctx.frames = .reset :: ctx'.frames

theorem waiting_of_resetLoop {ctx : DtlsClient} (h : ctx.resetLoop.frames = ctx.frames) :
    ctx.resetLoop.sendList.waiting = [] := by
  unfold resetLoop at h ⊢
  cases hlist : ctx.sendList.waiting with
  | nil => exact hlist
  | cons first others =>
    rw [hlist] at h
    exact absurd h (List.cons_ne_self _ _)

theorem waiting_of_resetReturns {ctx ctx' : DtlsClient} {e : DtlsClientEvent}
    (hs : dtlsClientStep ctx e = some ctx') (h : ctx.ResetReturns e ctx') :
    ctx'.sendList.waiting = [] := by
  rcases h with ⟨rfl, hframes⟩ | ⟨rfl, hframes⟩
  · cases dtlsClientCase_of_step hs with
    | reset hlive => exact waiting_of_resetLoop hframes
  · cases dtlsClientCase_of_step hs with
    | ret hbefore =>
      obtain ⟨rfl, hreturned⟩ := List.cons.inj (hbefore.symm.trans hframes)
      exact waiting_of_resetLoop hreturned.symm

end DtlsClient

namespace DtlsServer

def Serves (ctx ctx' : DtlsServer) : Prop :=
  ctx.sendList.Moves ctx.written ctx'.sendList ctx'.written ∧
    (ctx'.freed = true → ctx.freed = true ∨ ctx'.sendList.waiting = [])

theorem serves_same (ctx : DtlsServer) : Serves ctx ctx := ⟨.same, Or.inl⟩

theorem serves_destroyLoop (ctx : DtlsServer) : Serves ctx ctx.destroyLoop := by
  unfold destroyLoop
  cases hlist : ctx.sendList.waiting with
  | nil => exact ⟨.same, fun _ => Or.inr hlist⟩
  | cons first others => exact ⟨.drop hlist _, Or.inl⟩

theorem serves_resume (ctx : DtlsServer) (rest : SrvFrame) : Serves ctx (ctx.resume rest) := by
  cases rest with
  | done | handlePacket | sendCallback => exact serves_same ctx
  | destroyConnection => exact serves_destroyLoop ctx

theorem serves_startSend (ctx : DtlsServer) (ret : WriteRet) (use : MbedtlsUse) :
    Serves ctx (ctx.startSendDeferred ret use) := by
  rcases startSendDeferred_cases ctx ret use with
    ⟨heq, -⟩ | ⟨next, others, sentCount, hlist, -, heq⟩
  · rw [heq]
    exact serves_same ctx
  · rw [heq, mbedtls_only]
    exact ⟨.hand hlist _, Or.inl⟩

theorem serves_doOne (ctx : DtlsServer) (env : SrvModuleEnv) {rest : SrvFrame}
    (h : rest ≠ .destroyConnection) : Serves ctx (ctx.doOne env rest) := by
  have hlinked := linked_doOne ctx env h
  unfold Serves
  rw [hlinked.sendList, hlinked.written, hlinked.freed]
  exact serves_same ctx

theorem serves_step {ctx ctx' : DtlsServer} {e : DtlsServerEvent}
    (hs : dtlsServerStep ctx e = some ctx') : Serves ctx ctx' := by
  cases dtlsServerCase_of_step hs with
  | packet env => exact serves_doOne ctx env (by simp)
  | timer env => exact serves_doOne { ctx with timer := false } env (by simp)
  | udpFailed | udpClosing | closeAgain => exact serves_same ctx
  | udpDone env => exact serves_doOne { ctx with sending := false } env (by simp)
  | startSend ret use => exact serves_startSend { ctx with startSendEvent := false } ret use
  | deferredEvent =>
    unfold doEventCallback
    split_ifs <;> exact serves_same ctx
  | closeEvent =>
    unfold eventClose
    dsimp only
    split_ifs <;> exact serves_same ctx
  | close record =>
    rw [mbedtlsSend_only]
    exact serves_same ctx
  | sendRefused => exact ⟨.refuse, Or.inl⟩
  | send sendCtx => exact ⟨.accept sendCtx, Or.inl⟩
  | destroy => exact serves_destroyLoop { ctx with state := .closing }
  | @ret rest frames => exact serves_resume { ctx with frames := frames } rest

end DtlsServer

/-! ### Every context once -/

/-- The calls that were accepted are written at most once and in their order and called back
at most once; those that were refused are not called back. -/
structure SendsOnce (sendList : TicketQueue ℕ NpErrorCode) (written : List ℕ) : Prop where
  writtenAccepted : ∀ n ∈ written, n ∈ sendList.accepted
  writtenInOrder : written.Pairwise (· < ·)
  calledBackOnce : ∀ n ∈ sendList.accepted, sendList.done.count n ≤ 1
  refusedNever : ∀ n ∈ sendList.refused, n ∉ sendList.done

def AllCalledBack (sendList : TicketQueue ℕ NpErrorCode) : Prop :=
  ∀ n ∈ sendList.accepted, sendList.done.count n = 1

theorem sendsOnce_of_orderly {sendList : TicketQueue ℕ NpErrorCode} {written : List ℕ}
    (h : sendList.Orderly written) : SendsOnce sendList written where
  writtenAccepted _ hn := h.handed_accepted hn
  writtenInOrder := h.handed_sorted
  calledBackOnce n _ := List.nodup_iff_count_le_one.mp h.fair.done_nodup n
  refusedNever _ hn := h.fair.refused_not_done hn

theorem allCalledBack_of_empty {sendList : TicketQueue ℕ NpErrorCode} (h : sendList.Fair)
    (hempty : sendList.waiting = []) : AllCalledBack sendList :=
  fun _ hn => h.count_done hempty hn

/-- What every run of a module keeps, from what its steps do to the list. -/
theorem orderly_run {σ ε : Type} {M : Machine σ ε} (sendList : σ → TicketQueue ℕ NpErrorCode)
    (written : σ → List ℕ) (freed : σ → Bool) (hlist : sendList M.init = TicketQueue.empty)
    (hwritten : written M.init = []) (hfreed : freed M.init = false)
    (hstep : ∀ t e t', M.step t e = some t' → freed t ≠ true ∧
      (sendList t).Moves (written t) (sendList t') (written t') ∧
        (freed t' = true → freed t = true ∨ (sendList t').waiting = []))
    {evs : List ε} {s : σ} (h : M.Run evs s) :
    (sendList s).Orderly (written s) ∧ (freed s = true → (sendList s).waiting = []) := by
  refine h.invariant
    (fun t => (sendList t).Orderly (written t) ∧ (freed t = true → (sendList t).waiting = [])) ?_ ?_
  · rw [hlist, hwritten, hfreed]
    exact ⟨TicketQueue.orderly_empty, fun hf => by cases hf⟩
  · rintro t e t' ⟨horderly, -⟩ hs
    obtain ⟨hlive, hmoves, hf⟩ := hstep t e t' hs
    exact ⟨hmoves.orderly horderly, fun h => (hf h).resolve_left hlive⟩

theorem DtlsClient.orderly {evs : List DtlsClientEvent} {s : DtlsClient}
    (h : dtlsClient.Run evs s) :
    s.sendList.Orderly s.written ∧ (s.freed = true → s.sendList.waiting = []) :=
  orderly_run sendList written freed rfl rfl rfl
    (fun _ _ _ hs => ⟨(Option.ite_none_left_eq_some.mp hs).1, serves_step hs⟩) h

theorem DtlsServer.orderly {evs : List DtlsServerEvent} {s : DtlsServer}
    (h : dtlsServer.Run evs s) :
    s.sendList.Orderly s.written ∧ (s.freed = true → s.sendList.waiting = []) :=
  orderly_run sendList written freed rfl rfl rfl
    (fun _ _ _ hs => ⟨(Option.ite_none_left_eq_some.mp hs).1, serves_step hs⟩) h

/-- Over every run of the two modules, callbacks that submit contexts included: at all times
each accepted call has been written at most once and in order and called back at most once,
a refused one never, and when a reset returns or the context is freed every accepted call
has been called back exactly once. -/
theorem send_contexts_called_back_once :
    (∀ evs s, dtlsClient.Run evs s →
      SendsOnce s.sendList s.written ∧ (s.freed = true → AllCalledBack s.sendList)) ∧
    (∀ evs t e t', dtlsClient.Run evs t → dtlsClientStep t e = some t' → t.ResetReturns e t' →
      AllCalledBack t'.sendList) ∧
    (∀ evs s, dtlsServer.Run evs s →
      SendsOnce s.sendList s.written ∧ (s.freed = true → AllCalledBack s.sendList)) := by
  refine ⟨fun evs s h => ?_, fun evs t e t' h hs hreturns => ?_, fun evs s h => ?_⟩
  · obtain ⟨horderly, hfreed⟩ := DtlsClient.orderly h
    exact ⟨sendsOnce_of_orderly horderly,
      fun hf => allCalledBack_of_empty horderly.fair (hfreed hf)⟩
  · obtain ⟨horderly, -⟩ := DtlsClient.orderly (Machine.Run.snoc h hs)
    exact allCalledBack_of_empty horderly.fair (DtlsClient.waiting_of_resetReturns hs hreturns)
  · obtain ⟨horderly, hfreed⟩ := DtlsServer.orderly h
    exact ⟨sendsOnce_of_orderly horderly,
      fun hf => allCalledBack_of_empty horderly.fair (hfreed hf)⟩

def resubmitRun : List DtlsClientEvent :=
  handshakeRun ++
    [.send 1, .startSend .written ⟨.taken, false⟩, .send 2, .ret, .reset, .send 3, .ret]

def destroyRun : List DtlsClientEvent :=
  resubmitRun ++ [.ret, .send 1, .destroy, .udpSent 0 {}, .ret, .ret]

def destroyConnectionRun : List DtlsServerEvent :=
  acceptRun ++ [.send 1, .startSend .badInputData {}, .send 2, .ret, .destroy, .send 3, .ret]

theorem send_contexts_resubmitted :
    (∃ t t', dtlsClient.Run resubmitRun t ∧ dtlsClientStep t .ret = some t' ∧
      t'.sendList.accepted = [0, 1, 2] ∧ AllCalledBack t'.sendList) ∧
    (∃ s, dtlsClient.Run destroyRun s ∧ s.sendList.accepted = [0, 1, 2, 3] ∧ s.written = [0] ∧
      SendsOnce s.sendList s.written ∧ AllCalledBack s.sendList) ∧
    (∃ s, dtlsServer.Run destroyConnectionRun s ∧ s.sendList.accepted = [0, 1] ∧
      s.sendList.refused = [2] ∧
      SendsOnce s.sendList s.written ∧ AllCalledBack s.sendList) := by
  obtain ⟨hfreed, hreset, hdestroyed⟩ := send_contexts_called_back_once
  have hr : dtlsClient.Run resubmitRun _ := Machine.run_of_exec rfl
  have hd : dtlsClient.Run destroyRun _ := Machine.run_of_exec rfl
  have hsrv : dtlsServer.Run destroyConnectionRun _ := Machine.run_of_exec rfl
  refine ⟨⟨_, _, hr, rfl, rfl, hreset _ _ _ _ hr rfl (Or.inr ⟨rfl, rfl⟩)⟩, ?_, ?_⟩
  · exact ⟨_, hd, rfl, rfl, (hfreed _ _ hd).1, (hfreed _ _ hd).2 rfl⟩
  · exact ⟨_, hsrv, rfl, rfl, (hdestroyed _ _ hsrv).1, (hdestroyed _ _ hsrv).2 rfl⟩

end NabtoDevice
