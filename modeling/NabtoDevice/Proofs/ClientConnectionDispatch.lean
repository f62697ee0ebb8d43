import NabtoDevice.Sanity.ClientConnectionDispatch

/-! The shutdown of the client connections. After `async_close` the active connections
can only become fewer, and the close callback is called when the last one is gone,
unless a packet opens another connection. -/

namespace NabtoDevice

variable {ctx ctx' : ClientConnectionDispatch}

/-- No connection was opened after `async_close`. If that returned `NABTO_EC_OK` its callback
has been called once when no connection is active, and not before. -/
structure ClosesOnce (ctx : ClientConnectionDispatch) : Prop where
  none_opened : ctx.openedAfterClose = 0
  called : ctx.closeResult = some .ok → ctx.closeCbCalls = if ctx.hasActive then 0 else 1
  not_called : ctx.closeResult ≠ some .ok → ctx.closeCbCalls = 0

def opensWhileClosing (ctx : ClientConnectionDispatch) : DispatchEvent → Bool
  | .packet _ _ d env => ctx.closing && opensConnection ctx d env
  | _ => false

structure CloseRecorded (ctx : ClientConnectionDispatch) : Prop where
  closing : ctx.closing = ctx.closeResult.isSome
  closeCb : ctx.closeCb = true ↔ ctx.closeResult = some .ok

theorem CloseRecorded.result_eq_none (h : CloseRecorded ctx) (hopen : ¬ ctx.closing = true) :
    ctx.closeResult = none := by
  rw [h.closing] at hopen
  simpa using hopen

/-- The elements and the counter of the device do not matter as long as some element stays
active or all stay inactive. -/
theorem ClosesOnce.of_active (h : ClosesOnce ctx) (hactive : ctx'.hasActive = ctx.hasActive)
    (hopened : ctx'.openedAfterClose = ctx.openedAfterClose)
    (hresult : ctx'.closeResult = ctx.closeResult) (hcalls : ctx'.closeCbCalls = ctx.closeCbCalls) :
    ClosesOnce ctx' := by
  refine ⟨hopened.trans h.none_opened, ?_, ?_⟩
  · intro hok
    rw [hcalls, hactive]
    exact h.called (hresult ▸ hok)
  · intro hne
    rw [hcalls]
    exact h.not_called (hresult ▸ hne)

theorem hasActive_update {i : ℕ} {c : DispatchedConnection} (hc : ctx.elms[i]? = some (some c))
    (c' : DispatchedConnection) :
    ({ ctx with elms := ctx.elms.set i (some c') } : ClientConnectionDispatch).hasActive =
      ctx.hasActive :=
  (hasActive_set hc c').trans (hasActive_of_getElem hc).symm

theorem dispatchPacket_closesOnce_iff (h : ClosesOnce ctx) (hrec : CloseRecorded ctx) (sock ep : ℕ)
    (d : Datagram) (env : OpenEnv) :
    ClosesOnce (ncClientConnectionDispatchHandlePacket ctx sock ep d env).val.1 ↔
      (ctx.closing && opensConnection ctx d env) = false := by
  obtain ⟨hopens, i, c, c', hc, heq⟩ | ⟨hopens, ref, heq⟩ | ⟨hopens, i, c, ref, -, heq⟩ :=
    dispatchHandlePacket_cases ctx sock ep d env
  · rw [heq, hopens, Bool.and_false]
    exact iff_of_true (h.of_active (hasActive_update hc c') rfl rfl rfl) rfl
  · rw [heq, hopens, Bool.and_false]
    exact iff_of_true (h.of_active rfl rfl rfl rfl) rfl
  · rw [heq, hopens, Bool.and_true]
    cases hclosing : ctx.closing with
    | true =>
      refine iff_of_false ?_ (by simp)
      intro hgood
      have hone := hgood.none_opened
      simp [ClientConnectionDispatch.opened, hclosing] at hone
    | false =>
      -- before the close nothing is counted and nothing was returned
      have hresult : ctx.closeResult = none := hrec.result_eq_none (by simp [hclosing])
      refine iff_of_true ⟨?_, ?_, ?_⟩ rfl
      · simpa [ClientConnectionDispatch.opened, hclosing] using h.none_opened
      · simp [ClientConnectionDispatch.opened, hresult]
      · intro _
        exact h.not_called (by simp [hresult])

theorem closeConnection_closesOnce {i : ℕ} {c : DispatchedConnection} (h : ClosesOnce ctx)
    (hrec : CloseRecorded ctx) (hc : ctx.elms[i]? = some (some c)) :
    ClosesOnce (ncClientConnectionDispatchCloseConnection ctx i) := by
  have hactive : ctx.hasActive = true := hasActive_of_getElem hc
  by_cases hok : ctx.closeResult = some .ok
  · have hclosing : ctx.closing = true := by rw [hrec.closing, hok]; rfl
    have hcb : ctx.closeCb = true := hrec.closeCb.mpr hok
    have hcalls : ctx.closeCbCalls = 0 := by simpa [hactive] using h.called hok
    simp only [ncClientConnectionDispatchCloseConnection, ncClientConnectionDispatchTryClose,
      ClientConnectionDispatch.hasActive, hclosing, hcb, hcalls, Bool.and_true, ↓reduceIte]
    cases hleft : (ctx.elms.set i none).any Option.isSome with
    | true =>
      exact ⟨h.none_opened, by simp [ClientConnectionDispatch.hasActive, hleft], by simp [hok]⟩
    | false =>
      exact ⟨h.none_opened, by simp [ClientConnectionDispatch.hasActive, hleft], by simp [hok]⟩
  · have hcb : ctx.closeCb = false := by simpa [hok] using hrec.closeCb
    have hcalls : ctx.closeCbCalls = 0 := h.not_called hok
    simp only [ncClientConnectionDispatchCloseConnection, ncClientConnectionDispatchTryClose, hcb,
      Bool.and_false, Bool.false_eq_true, ↓reduceIte, ite_self]
    exact ⟨h.none_opened, fun hok' => absurd hok' hok, fun _ => hcalls⟩

/-- `async_close` changes no element between active and inactive, and its result says
whether there is an active one. -/
theorem asyncClose_spec (ctx : ClientConnectionDispatch) (envs : ℕ → SrvEnv) :
    (ncClientConnectionDispatchAsyncClose ctx envs).1 = (if ctx.hasActive then .ok else .stopped) ∧
      (ncClientConnectionDispatchAsyncClose ctx envs).2.hasActive = ctx.hasActive ∧
      (ncClientConnectionDispatchAsyncClose ctx envs).2.closing = true ∧
      (ncClientConnectionDispatchAsyncClose ctx envs).2.closeCb = (ctx.hasActive || ctx.closeCb) ∧
      (ncClientConnectionDispatchAsyncClose ctx envs).2.openedAfterClose = ctx.openedAfterClose ∧
      (ncClientConnectionDispatchAsyncClose ctx envs).2.closeCbCalls = ctx.closeCbCalls := by
  unfold ncClientConnectionDispatchAsyncClose
  cases hactive : ctx.hasActive with
  | true | false => exact ⟨rfl, (hasActive_mapIdx _ _).trans hactive, rfl, rfl, rfl, rfl⟩

theorem asyncClose_closesOnce (h : ClosesOnce ctx) (hresult : ctx.closeResult = none)
    (envs : ℕ → SrvEnv) :
    ClosesOnce { (ncClientConnectionDispatchAsyncClose ctx envs).2 with
      closeResult := some (ncClientConnectionDispatchAsyncClose ctx envs).1 } := by
  obtain ⟨hec, hactive, -, -, hopened, hcalls⟩ := asyncClose_spec ctx envs
  have hzero : ctx.closeCbCalls = 0 := h.not_called (by simp [hresult])
  refine ⟨hopened.trans h.none_opened, ?_, fun _ => hcalls.trans hzero⟩
  intro hok
  have hstill : (ncClientConnectionDispatchAsyncClose ctx envs).2.hasActive = true := by
    rw [hactive]
    by_contra hnone
    rw [hec, if_neg hnone] at hok
    cases hok
  exact (hcalls.trans hzero).trans (if_pos hstill).symm

theorem dispatchStep_closeRecorded {e : DispatchEvent} (h : CloseRecorded ctx)
    (hs : dispatchStep ctx e = some ctx') : CloseRecorded ctx' := by
  cases e with
  | packet sock ep d env =>
    obtain ⟨-, rfl⟩ := Machine.of_guard hs
    obtain ⟨-, i, c, c', -, heq⟩ | ⟨-, ref, heq⟩ | ⟨-, i, c, ref, -, heq⟩ :=
      dispatchHandlePacket_cases ctx sock ep d env
    all_goals
      rw [heq]
      exact ⟨h.closing, h.closeCb⟩
  | connection i e =>
    simp only [dispatchStep] at hs
    split at hs
    · split_ifs at hs
      obtain ⟨conn, -, rfl⟩ := Option.map_eq_some_iff.mp hs
      simp only [ncClientConnectionDispatchCloseConnection, ncClientConnectionDispatchTryClose]
      split_ifs <;> exact ⟨h.closing, h.closeCb⟩
    · cases hs
  | asyncClose envs =>
    obtain ⟨hopen, rfl⟩ := Machine.of_guard_not hs
    have hresult : ctx.closeResult = none := h.result_eq_none hopen
    have hcb : ctx.closeCb = false := by simpa [hresult] using h.closeCb
    obtain ⟨hec, -, hclosing, hcb', -, -⟩ := asyncClose_spec ctx envs
    refine ⟨hclosing, ?_⟩
    simp only [hcb', hcb, hec]
    cases ctx.hasActive <;> simp

theorem dispatchStep_iff {e : DispatchEvent} (hrec : CloseRecorded ctx) (h : ClosesOnce ctx)
    (hs : dispatchStep ctx e = some ctx') :
    ClosesOnce ctx' ↔ opensWhileClosing ctx e = false := by
  cases e with
  | packet sock ep d env =>
    obtain ⟨-, rfl⟩ := Machine.of_guard hs
    exact dispatchPacket_closesOnce_iff h hrec sock ep d env
  | connection i e =>
    refine iff_of_true ?_ rfl
    simp only [dispatchStep] at hs
    split at hs
    · next c hc =>
      split_ifs at hs
      obtain ⟨conn, -, rfl⟩ := Option.map_eq_some_iff.mp hs
      split
      · exact closeConnection_closesOnce h hrec hc
      · exact h.of_active (hasActive_update hc _) rfl rfl rfl
    · cases hs
  | asyncClose envs =>
    obtain ⟨hopen, rfl⟩ := Machine.of_guard_not hs
    exact iff_of_true (asyncClose_closesOnce h (hrec.result_eq_none hopen) envs) rfl

/-- Over every run of a dispatcher, after `async_close` no connection becomes active and its
callback is called exactly when the last active connection is gone, if and only if no
packet opens a connection after `async_close`. -/
theorem closes_once_iff (maxConnections : ℕ) {evs : List DispatchEvent}
    {s : ClientConnectionDispatch} (h : (clientConnectionDispatch maxConnections).Run evs s) :
    (∀ t, (clientConnectionDispatch maxConnections).Visits evs t → ClosesOnce t) ↔
      ∀ t e, (clientConnectionDispatch maxConnections).Takes evs t e →
        opensWhileClosing t e = false := by
  have hrec : CloseRecorded (ncClientConnectionDispatchInit maxConnections) :=
    ⟨rfl, by simp [ncClientConnectionDispatchInit]⟩
  have hinit : ClosesOnce (ncClientConnectionDispatchInit maxConnections) :=
    ⟨rfl, by simp [ncClientConnectionDispatchInit], fun _ => rfl⟩
  exact h.good_iff_takes CloseRecorded ClosesOnce
    (fun t e => opensWhileClosing t e = false) hrec hinit
    fun t e t' hinv hgood hs =>
      ⟨dispatchStep_iff hinv hgood hs, fun _ => dispatchStep_closeRecorded hinv hs⟩

/-- A first packet of a client: a connection id that repeats one byte, and the first byte of
a handshake record. -/
def helloPacket (b : UInt8) : Datagram where
  bytes := 240 :: List.replicate 15 b ++ [22]
  small := by simp

def shutdownRun : List DispatchEvent :=
  [.packet 0 0 (helloPacket 1) {}, .packet 0 1 (helloPacket 2) {}, .asyncClose fun _ => {},
   .packet 0 0 (helloPacket 1) {}, .connection 0 .closeEvent, .connection 1 .closeEvent]

theorem closes_once_shutdown :
    (∃ s, (clientConnectionDispatch 10).Run shutdownRun s ∧
      s.closeResult = some .ok ∧ s.hasActive = false ∧ s.closeCbCalls = 1) ∧
    ∀ t, (clientConnectionDispatch 10).Visits shutdownRun t → ClosesOnce t := by
  have hrun : ∃ s, (clientConnectionDispatch 10).Run shutdownRun s ∧
      s.closeResult = some .ok ∧ s.hasActive = false ∧ s.closeCbCalls = 1 :=
    ⟨_, Machine.run_of_exec rfl, by decide +kernel, by decide +kernel, by decide +kernel⟩
  refine ⟨hrun, ?_⟩
  obtain ⟨s, hs, -⟩ := hrun
  rw [closes_once_iff 10 hs]
  intro t e ht
  have hall : (clientConnectionDispatch 10).allTaken (fun t e => !opensWhileClosing t e)
      (clientConnectionDispatch 10).init shutdownRun = true := by decide +kernel
  exact Machine.takes_eq_false_of_allTaken hall ht

/-- After the close a client connects again each time its connection has ended. Each end is
the end of the last connection, and the callback is called twice. -/
theorem connection_opened_after_close :
    ∃ s, (clientConnectionDispatch 10).Run
        [.packet 0 0 (helloPacket 1) {}, .asyncClose fun _ => {}, .connection 0 .closeEvent,
         .packet 0 0 (helloPacket 2) {}, .connection 0 (.close {}), .connection 0 .closeEvent] s ∧
      s.closeResult = some .ok ∧ s.openedAfterClose = 1 ∧ s.closeCbCalls = 2 ∧ ¬ ClosesOnce s :=
  ⟨_, Machine.run_of_exec rfl, by decide +kernel, by decide +kernel, by decide +kernel,
    fun hgood => absurd hgood.none_opened (by decide +kernel)⟩

end NabtoDevice
