import NabtoDevice.Sanity.CoapClient
import NabtoDevice.Proofs.Attacher

/-! The flag `isSending` of the CoAP client and the send context it stands for. The context
outlives the DTLS sessions, and the flag is set before `async_send_data`, which refuses to
send while the DTLS client is closing. -/

namespace NabtoDevice

def CoapFlagMatches (ctx : NcAttachContext) : Prop :=
  coapOutstanding ctx = if ctx.coapIsSending then 1 else 0

instance (ctx : NcAttachContext) : Decidable (CoapFlagMatches ctx) :=
  inferInstanceAs (Decidable (_ = _))

variable {ctx ctx' : NcAttachContext}

theorem CoapFlagMatches.settles (h : CoapFlagMatches ctx) (hsettles : SendSettles ctx ctx') :
    CoapFlagMatches ctx' := by
  unfold CoapFlagMatches at *
  rcases hsettles with ⟨hflag, hcount⟩ | ⟨hflag, hcount⟩
  · rw [hflag, hcount, h]
  · rw [hflag]
    split_ifs at h with hsending
    · simp only [Bool.false_eq_true, if_false]
      omega
    · omega

def refusesCoapSend (ctx : NcAttachContext) : AttacherEvent → Bool
  | .coapSend => !ctx.coapIsSending && ctx.dtls.state = .closing
  | _ => false

theorem handleSend_matches_iff (h : CoapFlagMatches ctx) :
    CoapFlagMatches (ncCoapClientHandleSend ctx) ↔ refusesCoapSend ctx .coapSend = false := by
  unfold ncCoapClientHandleSend refusesCoapSend
  cases hsending : ctx.coapIsSending with
  | true => exact ⟨fun _ => rfl, fun _ => h⟩
  | false =>
    have hnone : ctx.dtls.sendList.count .coap = 0 := by
      simpa [CoapFlagMatches, coapOutstanding, hsending] using h
    by_cases hclosing : ctx.dtls.state = .closing <;>
      simp [CoapFlagMatches, coapOutstanding, asyncSendData, hclosing, hnone]

theorem attacherStep_coap_iff {e : AttacherEvent} (h : CoapFlagMatches ctx)
    (hs : attacherStep ctx e = some ctx') :
    CoapFlagMatches ctx' ↔ refusesCoapSend ctx e = false := by
  cases e with
  | coapSend => exact attacherStep_coapSend hs ▸ handleSend_matches_iff h
  | _ => exact ⟨fun _ => rfl, fun _ => h.settles (attacherStep_settles (by simp) hs)⟩

/-- In a run of the attacher the flag matches the outstanding send throughout exactly when
no packet is sent on the DTLS client while it is closing. -/
theorem coapClient_flag_iff {evs : List AttacherEvent} {s : NcAttachContext}
    (h : attacher.Run evs s) :
    (∀ t, attacher.Visits evs t → CoapFlagMatches t) ↔
      ∀ t e, attacher.Takes evs t e → refusesCoapSend t e = false := by
  have hinit : CoapFlagMatches attacher.init := rfl
  refine h.good_iff_takes (fun _ => True) CoapFlagMatches _ trivial hinit ?_
  intro ctx e ctx' _ hmatches hs
  exact ⟨attacherStep_coap_iff hmatches hs, fun _ => trivial⟩

theorem coapClient_flag_reattach :
    (attacher.exec reattachRun).map (·.trace) = some [.attached, .detached, .attached] ∧
      ∀ t, attacher.Visits reattachRun t → CoapFlagMatches t := by
  have hr : attacher.Run reattachRun _ := Machine.run_of_exec rfl
  refine ⟨by decide +kernel, (coapClient_flag_iff hr).mpr fun t e ht => ?_⟩
  exact Machine.takes_eq_false_of_allTaken (by decide +kernel) ht

/-! ### After a refused packet -/

def CoapBlocked (ctx : NcAttachContext) : Prop := ctx.coapIsSending = true ∧ coapOutstanding ctx = 0

theorem CoapBlocked.step {e : AttacherEvent} (h : CoapBlocked ctx)
    (hs : attacherStep ctx e = some ctx') : CoapBlocked ctx' := by
  obtain ⟨hsending, hnone⟩ := h
  by_cases he : e = .coapSend
  · subst he
    rw [attacherStep_coapSend hs, ncCoapClientHandleSend, if_pos hsending]
    exact ⟨hsending, hnone⟩
  · rcases attacherStep_settles he hs with ⟨hflag, hcount⟩ | ⟨-, hcount⟩
    · exact ⟨hflag.trans hsending, hcount.trans hnone⟩
    · omega

/-- A blocked CoAP client stays blocked over all later connections. -/
theorem coapClient_blocked {evs more : List AttacherEvent} {s t : NcAttachContext}
    (hs : attacher.Run evs s) (hblocked : CoapBlocked s) (ht : attacher.Run (evs ++ more) t) :
    CoapBlocked t :=
  Machine.Run.invariant_from CoapBlocked (fun _ _ _ h hstep => h.step hstep) hs hblocked ht

/-- The server of an attached device vanishes while an upload of tokens is retransmitted.
After the keep alive timeout the close notify is still to be sent when the next
retransmission is due. The device attaches again. -/
def refusedRetransmission : List AttacherEvent :=
  .start :: attachRun ++ .addToken "token" true {} :: List.replicate 32 (.keepAlive {}) ++
    [.keepAlive { closeNotify := true }, .coapSend, .udpSent 0 {}, .reattach,
      .dnsResolved true { call := ⟨true, true⟩ }, .udpSent 0 {}, .packet { handshake := .done },
        .coapSend]

/-- The new DTLS connection is up and the attach start request waits to be sent, but the flag
is set with nothing outstanding, and stays so. -/
theorem refused_retransmission_blocks_coapClient :
    ∃ s, attacher.Run refusedRetransmission s ∧ ¬ CoapFlagMatches s ∧
      s.dtls.state = .data ∧ ⟨.attachStart, false⟩ ∈ s.requests ∧
      ∀ more t, attacher.Run (refusedRetransmission ++ more) t →
        t.coapIsSending = true ∧ coapOutstanding t = 0 := by
  have hr : attacher.Run refusedRetransmission _ := Machine.run_of_exec rfl
  refine ⟨_, hr, by decide +kernel, by decide +kernel, by decide +kernel, fun more t ht => ?_⟩
  exact coapClient_blocked hr ⟨by decide +kernel, by decide +kernel⟩ ht

end NabtoDevice
