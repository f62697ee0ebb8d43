import NabtoDevice.Spec.Device
import NabtoDevice.Proofs.AttacherClosing
import NabtoDevice.Proofs.ClientConnectionDispatch

/-! The start and the close of the device over every run. An accepted close is answered
once, when the client connections and the attacher are closed. -/

namespace NabtoDevice.Core

open AttacherView

section Connections

variable {ctx ctx' : ClientConnectionDispatch}

structure Goes (ctx ctx' : ClientConnectionDispatch) : Prop where
  recorded : CloseRecorded ctx'
  closing : ctx'.closing = ctx.closing
  closeCb : ctx'.closeCb = ctx.closeCb
  opened : ctx'.openedAfterClose = 0 → ctx.openedAfterClose = 0
  called : ctx'.closeCbCalls ≠ ctx.closeCbCalls → ctx.closing = true ∧ ctx'.hasActive = false
  stays : ctx.closeCb = true → ctx.hasActive = true →
    ctx'.hasActive = true ∨ ctx'.closeCbCalls ≠ ctx.closeCbCalls
  gone : ctx.closing = true → ctx'.openedAfterClose = 0 → ctx.hasActive = false →
    ctx'.hasActive = false

theorem goes_update (hrec : CloseRecorded ctx) {elms : List (Option DispatchedConnection)}
    (hactive : elms.any Option.isSome = ctx.hasActive) (ref : UInt64) :
    Goes ctx { ctx with elms := elms, deviceConnectionRef := ref } where
  recorded := ⟨hrec.closing, hrec.closeCb⟩
  closing := rfl
  closeCb := rfl
  opened := id
  called h := absurd rfl h
  stays _ h := Or.inl (hactive.trans h)
  gone _ _ h := hactive.trans h

theorem goes_packet (hrec : CloseRecorded ctx) (sock ep : ℕ) (d : Datagram) (env : OpenEnv) :
    Goes ctx (ncClientConnectionDispatchHandlePacket ctx sock ep d env).val.1 ∧
      (ncClientConnectionDispatchHandlePacket ctx sock ep d env).val.1.closeCbCalls =
        ctx.closeCbCalls := by
  obtain ⟨-, i, c, c', hc, heq⟩ | ⟨-, ref, heq⟩ | ⟨-, i, c, ref, hfree, heq⟩ :=
    dispatchHandlePacket_cases ctx sock ep d env
  · rw [heq]
    exact ⟨goes_update hrec (hasActive_update hc c') _, rfl⟩
  · rw [heq]
    exact ⟨goes_update hrec rfl ref, rfl⟩
  · rw [heq]
    refine ⟨⟨⟨hrec.closing, hrec.closeCb⟩, rfl, rfl, fun hnone => ?_, fun h => absurd rfl h,
      fun _ _ => Or.inl (hasActive_set hfree c), fun hclosing hnone => ?_⟩, rfl⟩
    · simp only [ClientConnectionDispatch.opened] at hnone
      split_ifs at hnone
      exact hnone
    · simp [ClientConnectionDispatch.opened, hclosing] at hnone

theorem goes_closeConnection (hrec : CloseRecorded ctx) (hactive : ctx.hasActive = true) (i : ℕ) :
    Goes ctx (ncClientConnectionDispatchCloseConnection ctx i) := by
  have hgone {P : Prop} (h : ctx.hasActive = false) : P := by cases hactive.symm.trans h
  simp only [ncClientConnectionDispatchCloseConnection, ncClientConnectionDispatchTryClose]
  split_ifs with hclosing hlast
  · obtain ⟨hnone, -⟩ := Bool.and_eq_true_iff.mp hlast
    exact ⟨⟨hrec.closing, hrec.closeCb⟩, rfl, rfl, id,
      fun _ => ⟨hclosing, (Bool.not_eq_true' _).mp hnone⟩,
      fun _ _ => Or.inr (Nat.succ_ne_self _), fun _ _ => hgone⟩
  · refine ⟨⟨hrec.closing, hrec.closeCb⟩, rfl, rfl, id, fun h => absurd rfl h,
      fun hcb _ => Or.inl ?_,
      fun _ _ => hgone⟩
    simpa [hcb] using hlast
  · refine ⟨⟨hrec.closing, hrec.closeCb⟩, rfl, rfl, id, fun h => absurd rfl h,
      fun hcb => absurd ?_ hclosing,
      fun _ _ => hgone⟩
    -- no callback is set before the close
    rw [hrec.closing, hrec.closeCb.mp hcb]
    rfl

theorem goes_connection (hrec : CloseRecorded ctx) {i : ℕ} {e : ClientConnectionEvent}
    (hs : dispatchStep ctx (.connection i e) = some ctx') : Goes ctx ctx' := by
  simp only [dispatchStep] at hs
  split at hs
  · next c hc =>
    split_ifs at hs
    obtain ⟨conn, -, rfl⟩ := Option.map_eq_some_iff.mp hs
    split_ifs
    · exact goes_closeConnection hrec (hasActive_of_getElem hc) i
    · exact goes_update hrec (hasActive_update hc _) _
  · cases hs

end Connections

variable {dev dev' : NcDeviceContext} {ctx : ClientConnectionDispatch} {a : NcAttachContext}

structure Down (ctx : ClientConnectionDispatch) (a : NcAttachContext) : Prop where
  closing : ctx.closing = true
  off : Fresh a ∨ a.moduleState = .closed
  gone : ctx.openedAfterClose = 0 → ctx.hasActive = false

structure Sound (dev : NcDeviceContext) : Prop where
  localUdp : dev.localUdp.receiving = true → dev.udp.receiving = true
  secondaryUdp : dev.secondaryUdp.receiving = true → dev.localUdp.receiving = true
  nextLocal : dev.binding = some .localUdp → dev.udp.receiving = true
  nextSecondary : dev.binding = some .secondaryUdp → dev.localUdp.receiving = true
  rendezvous : dev.rendezvousUdp = true → dev.udp.receiving = true
  stun : dev.stunSockets = true → dev.secondaryUdp.receiving = true
  started : (dev.udp.receiving = false ∧ Fresh dev.attacher) ∨
    (dev.udp.receiving = true ∧ dev.attacher.moduleState ≠ .setup)
  recorded : CloseRecorded dev.clientConnect
  accepted : dev.clientConnect.closing = true → dev.state = .stopped
  once : dev.closeCbCalls + dev.closeCb.toNat = dev.closesAccepted
  counted : dev.closesAccepted = dev.clientConnect.closing.toNat
  requested : dev.attacher.closedCb = true ∨ 0 < dev.closeCbCalls →
    Down dev.clientConnect dev.attacher
  aborted : dev.localUdp.aborted = true ↔ 0 < dev.closeCbCalls
  down : 0 < dev.closeCbCalls → dev.udp.aborted = true ∧ dev.secondaryUdp.aborted = true
  accounted : (view dev.attacher).Accounted

def Awaited (dev : NcDeviceContext) : Prop :=
  dev.closeCb = true → (dev.clientConnect.closeCb = true ∧ dev.clientConnect.hasActive = true) ∨
    dev.attacher.closedCb = true

/-- Before a close is accepted nothing of it is there. -/
theorem Sound.unclosed (h : Sound dev) (hs : dev.state ≠ .stopped) :
    dev.clientConnect.closing = false ∧ dev.closeCbCalls = 0 ∧ dev.closeCb = false ∧
      dev.attacher.closedCb = false := by
  have hclosing : dev.clientConnect.closing = false := Bool.eq_false_iff.mpr (mt h.accepted hs)
  have hsum := h.once.trans h.counted
  rw [hclosing, Bool.toNat_false, Nat.add_eq_zero_iff, Bool.toNat_eq_zero] at hsum
  refine ⟨hclosing, hsum.1, hsum.2, Bool.eq_false_iff.mpr fun hr => ?_⟩
  cases hclosing.symm.trans (h.requested (Or.inl hr)).closing

theorem Sound.dispatched (h : Sound dev) (hg : Goes dev.clientConnect ctx) :
    Sound { dev with clientConnect := ctx } :=
  { h with
    recorded := hg.recorded
    accepted := fun hc => h.accepted (hg.closing.symm.trans hc)
    counted := h.counted.trans (congrArg Bool.toNat hg.closing.symm)
    requested := fun hr =>
      have hd := h.requested hr
      ⟨hg.closing.trans hd.closing, hd.off,
        fun ho => hg.gone hd.closing ho (hd.gone (hg.opened ho))⟩ }

theorem Awaited.dispatched (hw : Awaited dev) (hg : Goes dev.clientConnect ctx)
    (hcalls : ctx.closeCbCalls = dev.clientConnect.closeCbCalls) :
    Awaited { dev with clientConnect := ctx } := by
  intro hcb
  rcases hw hcb with ⟨hcc, hactive⟩ | hclosed
  · exact Or.inl ⟨hg.closeCb.trans hcc, (hg.stays hcc hactive).resolve_right (absurd hcalls)⟩
  · exact Or.inr hclosed

theorem Down.attached (hd : Down ctx a) {a' : NcAttachContext} {e : AttacherEvent}
    (hs : attacherStep a e = some a') (he : e ≠ .start) : Down ctx a' :=
  ⟨hd.closing, hd.off.imp (fresh_stays · he hs) fun hm => ((moves_step hs).windsDown hm).1, hd.gone⟩

theorem Sound.attached (h : Sound dev) {e : AttacherEvent}
    (hs : attacherStep dev.attacher e = some a)
    (he : e ≠ .start) (hcb : a.closedCb = true →
      dev.attacher.closedCb = true ∨ Down dev.clientConnect a) :
    Sound { dev with attacher := a } := by
  have hmove := moves_step hs
  refine { h with
    started := h.started.imp (And.imp_right (fresh_stays · he hs))
      (And.imp_right (mt hmove.setup_of_setup))
    requested := ?_
    accounted := h.accounted.moves hmove }
  rintro (hr | hr)
  · exact (hcb hr).elim (fun hold => (h.requested (Or.inl hold)).attached hs he) id
  · exact (h.requested (Or.inr hr)).attached hs he

theorem Sound.attachClosed (h : Sound dev) (hd : Down dev.clientConnect dev.attacher) :
    Sound (ncDeviceAttachClosedCb dev) ∧ Awaited (ncDeviceAttachClosedCb dev) := by
  -- a second call, after a late connection, finds the callback called
  have heq : ncDeviceAttachClosedCb dev = { dev with
      udp := ncUdpDispatchAbort dev.udp, localUdp := ncUdpDispatchAbort dev.localUdp
      secondaryUdp := ncUdpDispatchAbort dev.secondaryUdp, closeCb := false,
        closeCbCalls := 1 } := by
    have hsum := h.once.trans h.counted
    unfold ncDeviceAttachClosedCb
    cases hcb : dev.closeCb <;> simp_all [hd.closing]
  rw [heq]
  exact ⟨{ h with
    once := (h.counted.trans (congrArg Bool.toNat hd.closing)).symm
    requested := fun _ => hd
    aborted := iff_of_true rfl Nat.one_pos
    down := fun _ => ⟨rfl, rfl⟩ }, nofun⟩

theorem Sound.connectionsClosed (h : Sound dev) (hclosing : dev.clientConnect.closing = true)
    (hgone : dev.clientConnect.hasActive = false) (env : AttacherEnv) :
    Sound (ncDeviceClientConnectionsClosedCb dev env) ∧
      Awaited (ncDeviceClientConnectionsClosedCb dev env) := by
  have hs : attacherStep dev.attacher (.asyncClose env) =
    some (ncAttacherAsyncClose dev.attacher env) := rfl
  have he : AttacherEvent.asyncClose env ≠ .start := nofun
  have hoff : Fresh (ncAttacherAsyncClose dev.attacher env) ∨
      (ncAttacherAsyncClose dev.attacher env).moduleState = .closed :=
    h.started.imp (fun hf => fresh_stays hf.2 he hs) fun hm =>
      ((shutsDown_doClose { dev.attacher with closedCb := true } env).windsDown hm.2).1
  exact ⟨h.attached hs he fun _ => Or.inr ⟨hclosing, hoff, fun _ => hgone⟩,
    fun _ => Or.inr (moves_step hs).closedCb_eq⟩

theorem sound_close (h : Sound dev) (hw : Awaited dev) (envs : ℕ → SrvEnv) (env : AttacherEnv) :
    Sound (ncDeviceClose dev envs env).2 ∧ Awaited (ncDeviceClose dev envs env).2 := by
  unfold ncDeviceClose
  split_ifs with hs
  · exact ⟨h, hw⟩
  · obtain ⟨hclosing, hcalls, hcb, hclosed⟩ := h.unclosed (by simp_all)
    have hrec := dispatchStep_closeRecorded h.recorded
      (show dispatchStep dev.clientConnect (.asyncClose envs) =
        some _ from if_neg (by simp [hclosing]))
    obtain ⟨hec, hactive, hclosing', hcb', -, -⟩ := asyncClose_spec dev.clientConnect envs
    have hsound : Sound { dev with
        closeCb := true, state := .stopped, closesAccepted := dev.closesAccepted + 1
        clientConnect := { (ncClientConnectionDispatchAsyncClose dev.clientConnect envs).2 with
          closeResult := some (ncClientConnectionDispatchAsyncClose dev.clientConnect envs).1 } } :=
      { h with
        recorded := hrec
        accepted := fun _ => rfl
        once := by simp [← h.once, hcalls, hcb]
        counted := by simp [h.counted, hclosing, hclosing']
        requested := by simp [hcalls, hclosed] }
    dsimp only
    split_ifs with hstopped
    · exact hsound.connectionsClosed hclosing' (hactive.trans (by simpa [hec] using hstopped)) env
    · have hstill : dev.clientConnect.hasActive = true := by simpa [hec] using hstopped
      exact ⟨hsound, fun _ => Or.inl ⟨by simp [hcb', hstill], hactive.trans hstill⟩⟩

theorem sound_bound (h : Sound dev) (hw : Awaited dev) {ec : NpErrorCode}
    (hs : coreStep dev (.bound ec) = some dev') : Sound dev' ∧ Awaited dev' := by
  obtain ⟨k, hk, rfl⟩ := Option.map_eq_some_iff.mp hs
  have hnone : Sound { dev with binding := none } :=
    { h with nextLocal := by simp, nextSecondary := by simp }
  cases k with
  | udp =>
    simp only [ncDeviceUdpBoundCb]
    split_ifs with hstate
    · exact ⟨hnone, hw⟩
    · exact ⟨{ hnone with accepted := fun _ => rfl }, hw⟩
    · obtain ⟨-, hcalls, hcb, hclosed⟩ := h.unclosed hstate
      have hmove := moves_step
        (show attacherStep dev.attacher .start = some (ncAttacherStart dev.attacher) from rfl)
      have hsetup : (ncAttacherStart dev.attacher).moduleState ≠ .setup := by
        unfold ncAttacherStart
        split_ifs with hm
        · exact hm
        · exact nofun
      have hclosed' : (ncAttacherStart dev.attacher).closedCb = false :=
        hmove.closedCb_eq.trans hclosed
      exact ⟨{ hnone with
        localUdp := fun _ => rfl
        nextLocal := fun _ => rfl
        nextSecondary := by simp
        rendezvous := fun _ => rfl
        started := Or.inr ⟨rfl, hsetup⟩
        requested := by simp [hcalls, hclosed']
        accounted := h.accounted.moves hmove }, fun h' => by simp_all⟩
  | localUdp =>
    simp only [ncDeviceLocalUdpBoundCb]
    split_ifs
    · exact ⟨hnone, hw⟩
    · exact ⟨{ hnone with
        localUdp := fun _ => h.nextLocal hk
        secondaryUdp := fun _ => rfl
        nextLocal := by simp
        nextSecondary := fun _ => rfl }, hw⟩
  | secondaryUdp =>
    simp only [ncDeviceSecondaryUdpBoundCb]
    split_ifs
    · exact ⟨hnone, hw⟩
    · exact ⟨{ hnone with secondaryUdp := fun _ => h.nextSecondary hk, stun := fun _ => rfl }, hw⟩

theorem cliConn_of_handlePacket {udp : UdpDispatch} {sock ep : ℕ} {d : Datagram} {env : OpenEnv}
    (h : (ncUdpDispatchHandlePacket udp sock ep d env).val.1 = .cliConn ctx) :
    ∃ ctx₀, udp.cliConn = some ctx₀ ∧
      ctx = (ncClientConnectionDispatchHandlePacket ctx₀ sock ep d env).val.1 := by
  rw [ncUdpDispatchHandlePacket, Traced.val_bind] at h
  split at h
  · cases h
  rw [Traced.val_bind] at h
  split at h
  · cases h
  cases hcli : udp.cliConn with
  | none =>
    rw [hcli] at h
    cases h
  | some ctx₀ =>
    rw [hcli, dispatchClient, Traced.val_bind] at h
    split at h
    · cases h
      exact ⟨ctx₀, rfl, rfl⟩
    · cases h

theorem sound_packet (h : Sound dev) (hw : Awaited dev) {k : NcDeviceSocket} {ep : ℕ} {d : Datagram}
    {env : OpenEnv}
    {attacherEnv : AttacherEnv} (hs : handlePacket dev k ep d env attacherEnv = some dev') :
    Sound dev' ∧ Awaited dev' := by
  unfold handlePacket at hs
  obtain ⟨-, hs⟩ := Option.ite_none_right_eq_some.mp hs
  split at hs
  · obtain ⟨a, ha, rfl⟩ := Option.map_eq_some_iff.mp hs
    have hcb : a.closedCb = dev.attacher.closedCb := (moves_step ha).closedCb_eq
    exact ⟨h.attached ha nofun fun ha => Or.inl (hcb ▸ ha), fun hd => (hw hd).imp_right hcb.trans⟩
  · next ctx hctx =>
    cases hs
    obtain ⟨ctx₀, hsome, rfl⟩ := cliConn_of_handlePacket hctx
    obtain ⟨-, hsome⟩ := Option.ite_none_right_eq_some.mp hsome
    cases hsome
    obtain ⟨hg, hcalls⟩ := goes_packet h.recorded k.ctorIdx ep d env
    exact ⟨h.dispatched hg, hw.dispatched hg hcalls⟩
  · exact Option.some.inj hs ▸ ⟨h, hw⟩
  · exact Option.some.inj hs ▸ ⟨h, hw⟩

theorem sound_step (h : Sound dev) (hw : Awaited dev) {e : CoreEvent}
    (hs : coreStep dev e = some dev') : Sound dev' ∧ Awaited dev' := by
  cases e with
  | start enableMdns =>
    obtain ⟨hsetup, rfl⟩ := Machine.of_guard hs
    have hopen := (h.unclosed (by simp [hsetup])).1
    exact ⟨{ h.dispatched (goes_update h.recorded rfl 0) with
      nextLocal := by simp [ncDeviceStart]
      nextSecondary := by simp [ncDeviceStart]
      accepted := fun hc => by cases hc.symm.trans hopen }, hw⟩
  | bound ec => exact sound_bound h hw hs
  | packet k ep d env attacherEnv => exact sound_packet h hw (Option.ite_none_right_eq_some.mp hs).2
  | connection i e env =>
    obtain ⟨ctx, hstep, rfl⟩ := Option.map_eq_some_iff.mp hs
    have hg := goes_connection h.recorded hstep
    dsimp only
    split_ifs with hcalls
    · exact ⟨h.dispatched hg, hw.dispatched hg hcalls⟩
    · obtain ⟨hclosing, hgone⟩ := hg.called hcalls
      exact (h.dispatched hg).connectionsClosed (hg.closing.trans hclosing) hgone env
  | attacher e =>
    obtain ⟨he, hs⟩ := Option.ite_none_left_eq_some.mp hs
    obtain ⟨a, ha, rfl⟩ := Option.map_eq_some_iff.mp hs
    have hstart : e ≠ .start := fun heq => he (heq ▸ rfl)
    have hcb := (moves_step ha).closedCb_eq
    dsimp only
    split_ifs with hcalls
    · cases e with
      | closeEv =>
        have hd := (h.requested (Or.inl hcalls)).attached ha hstart
        exact (h.attached ha hstart fun _ => Or.inr hd).attachClosed hd
      | _ => cases hcalls
    · have hsame : a.closedCb = dev.attacher.closedCb := by
        cases e with
        | asyncClose => exact absurd rfl he
        | closeEv =>
          have hnone : dev.attacher.closedCb = false := by simpa [callsClosedCb] using hcalls
          exact hcb.trans hnone.symm
        | _ => exact hcb
      exact ⟨h.attached ha hstart fun ha => Or.inl (hsame ▸ ha),
        fun hd => (hw hd).imp_right hsame.trans⟩
  | close envs env => exact Option.some.inj hs ▸ sound_close h hw envs env
  | stop env =>
    cases hs
    have ha : attacherStep dev.attacher (.stop env) = some (ncAttacherStop dev.attacher env) := rfl
    have hcb : (ncAttacherStop dev.attacher env).closedCb = dev.attacher.closedCb :=
      (moves_step ha).closedCb_eq
    have hsound := h.attached ha (by simp) fun ha => Or.inl (hcb ▸ ha)
    exact ⟨{ hsound with
      rendezvous := fun hset => by cases hset
      stun := fun hset => by cases hset
      accepted := fun _ => rfl
      down := fun _ => ⟨rfl, rfl⟩ }, fun hd => (hw hd).imp_right hcb.trans⟩

theorem sound_run {maxConnections : ℕ} {evs : List CoreEvent}
    (h : (ncDevice maxConnections).Run evs dev) : Sound dev ∧ Awaited dev := by
  refine h.invariant (fun dev => Sound dev ∧ Awaited dev) ⟨?_, fun hcb => by cases hcb⟩
    fun s e s' hinv hs => sound_step hinv.1 hinv.2 hs
  refine ⟨?_, ?_, ?_, ?_, ?_, ?_, Or.inl ⟨rfl, fresh_init⟩, ⟨rfl, ?_⟩, nofun, rfl, rfl, ?_, ?_, ?_,
    accounted_run Machine.Run.nil⟩ <;>
    simp [ncDevice, ncDeviceInit, ncAttacherInit, ncClientConnectionDispatchInit]

def closeRun : List CoreEvent :=
  [.start true, .bound .ok, .bound .ok, .bound .ok, .packet .localUdp 0 (helloPacket 1) {} {},
   .close (fun _ => {}) {}, .connection 0 .closeEvent {}, .attacher (.dnsResolved true {})]

/-- In every run the callback of an accepted close is called once, or the close waits for a
connection or for something the attacher has outstanding. -/
theorem accepted_close_is_answered (maxConnections : ℕ) {evs : List CoreEvent}
    {dev : NcDeviceContext} (h : (ncDevice maxConnections).Run evs dev) :
    dev.closesAccepted ≤ 1 ∧ dev.closeCbCalls + dev.closeCb.toNat = dev.closesAccepted ∧
      (dev.closeCb = true → OneTerminalEvent dev.attacher → dev.clientConnect.hasActive = true ∨
        dev.attacher.closeEv = true ∨ 0 < dev.attacher.dnsPending ∨ Unfinished dev.attacher) := by
  obtain ⟨hsound, hawaited⟩ := sound_run h
  refine ⟨hsound.counted ▸ Bool.toNat_le _, hsound.once, fun hcb hone => ?_⟩
  exact (hawaited hcb).imp And.right (pending_closedCb hsound.accounted hone)

theorem accepted_close_is_answered_run :
    ∃ dev, (ncDevice 10).Run closeRun dev ∧
      (dev.clientConnect.hasActive = true ∨ dev.attacher.closeEv = true ∨
      0 < dev.attacher.dnsPending ∨ Unfinished dev.attacher) := by
  have hr : (ncDevice 10).Run closeRun _ := Machine.run_of_exec rfl
  refine ⟨_, hr, (accepted_close_is_answered 10 hr).2.2 (by decide +kernel) ⟨?_, ?_⟩⟩ <;>
    decide +kernel

/-- The callback of the close is called when the device is down. No other call aborts the
local socket. -/
theorem answered_close_is_down (maxConnections : ℕ) {evs : List CoreEvent} {dev : NcDeviceContext}
    (h : (ncDevice maxConnections).Run evs dev) :
    (dev.localUdp.aborted = true ↔ 0 < dev.closeCbCalls) ∧
      (0 < dev.closeCbCalls → dev.state = .stopped ∧ dev.attacher.moduleState ≠ .running ∧
        dev.udp.aborted = true ∧ dev.secondaryUdp.aborted = true ∧
        (dev.clientConnect.openedAfterClose = 0 → dev.clientConnect.hasActive = false)) := by
  obtain ⟨hsound, -⟩ := sound_run h
  refine ⟨hsound.aborted, fun hcalls => ?_⟩
  have hdown := hsound.requested (Or.inr hcalls)
  have hoff : dev.attacher.moduleState ≠ .running := by
    rcases hdown.off with hfresh | hclosed
    · simp [hfresh.setup]
    · simp [hclosed]
  obtain ⟨hudp, hsecondary⟩ := hsound.down hcalls
  exact ⟨hsound.accepted hdown.closing, hoff, hudp, hsecondary, hdown.gone⟩

theorem answered_close_is_down_run :
    ∃ dev, (ncDevice 10).Run (closeRun ++ [.attacher .closeEv]) dev ∧
      dev.clientConnect.hasActive = false := by
  have hr : (ncDevice 10).Run (closeRun ++ [.attacher .closeEv]) _ := Machine.run_of_exec rfl
  exact ⟨_, hr, ((answered_close_is_down 10 hr).2 (by decide +kernel)).2.2.2.2 (by decide +kernel)⟩

/-- The device starts to receive on its sockets one after the other, asks for the bind of the next
one only then, and starts the attacher with the first. The rendezvous and the STUN module have no
socket on which it does not receive. -/
theorem sockets_receive_in_order (maxConnections : ℕ) {evs : List CoreEvent} {dev : NcDeviceContext}
    (h : (ncDevice maxConnections).Run evs dev) :
    (dev.localUdp.receiving = true ∨ dev.binding = some .localUdp → dev.udp.receiving = true) ∧
      (dev.secondaryUdp.receiving = true ∨ dev.binding = some .secondaryUdp →
        dev.localUdp.receiving = true) ∧
      (dev.attacher.moduleState = .setup ↔ dev.udp.receiving = false) ∧
      (dev.rendezvousUdp = true → dev.udp.receiving = true) ∧
      (dev.stunSockets = true → dev.udp.receiving = true ∧ dev.secondaryUdp.receiving = true) := by
  obtain ⟨hsound, -⟩ := sound_run h
  refine ⟨fun hor => hor.elim hsound.localUdp hsound.nextLocal,
    fun hor => hor.elim hsound.secondaryUdp hsound.nextSecondary, ?_, hsound.rendezvous,
      fun hstun => ?_⟩
  · rcases hsound.started with ⟨hb, hfresh⟩ | ⟨hb, hne⟩
    · exact iff_of_true hfresh.setup hb
    · exact iff_of_false hne (by simp [hb])
  · have hsecondary := hsound.stun hstun
    exact ⟨hsound.localUdp (hsound.secondaryUdp hsecondary), hsecondary⟩

theorem sockets_receive_in_order_run :
    ∃ dev, (ncDevice 10).Run closeRun dev ∧ dev.udp.receiving = true ∧
      dev.secondaryUdp.receiving = true := by
  have hr : (ncDevice 10).Run closeRun _ := Machine.run_of_exec rfl
  exact ⟨_, hr, (sockets_receive_in_order 10 hr).2.2.2.2 (by decide +kernel)⟩

end NabtoDevice.Core
