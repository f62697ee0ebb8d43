import NabtoDevice.Spec.Attacher
import Mathlib.Tactic.Common
import Mathlib.Tactic.SplitIfs

/-! What each event makes the attacher do, with the guards of the step and of the function it
calls. The proofs that go through all events split the cases of this relation. -/

namespace NabtoDevice

inductive AttacherCase (ctx : NcAttachContext) : AttacherEvent → NcAttachContext → Prop
  | startRefused (hm : ctx.moduleState ≠ .setup) : AttacherCase ctx .start ctx
  | start (hm : ctx.moduleState = .setup) :
      AttacherCase ctx .start (handleStateChange
        { ctx with state := .dns, moduleState := .running })
  | asyncClose (env : AttacherEnv) :
      AttacherCase ctx (.asyncClose env) (doClose { ctx with closedCb := true } env)
  | stop (env : AttacherEnv) :
      AttacherCase ctx (.stop env)
        (doClose { ctx with keepAlive := ncKeepAliveStop ctx.keepAlive } env)
  | addToken (token : String) (inserted : Bool) (env : AttacherEnv) :
      AttacherCase ctx (.addToken token inserted env)
        (ncAttacherAddServerConnectToken ctx token inserted env)
  | resolvedLate (ok : Bool) (env : AttacherEnv) (hp : 0 < ctx.dnsPending)
      (hm : ctx.moduleState = .closed) :
      AttacherCase ctx (.dnsResolved ok env)
        (handleStateChange { ctx with dnsPending := ctx.dnsPending - 1, state := .closed })
  | resolveFailed (env : AttacherEnv) (hp : 0 < ctx.dnsPending) (hm : ctx.moduleState ≠ .closed) :
      AttacherCase ctx (.dnsResolved false env)
        (handleStateChange { ctx with dnsPending := ctx.dnsPending - 1, state := .retryWait })
  | resolved (env : AttacherEnv) (hp : 0 < ctx.dnsPending) (hm : ctx.moduleState ≠ .closed) :
      AttacherCase ctx (.dnsResolved true env) (nmDtlsEventDoOne
        (handleStateChange
          { ctx with dnsPending := ctx.dnsPending - 1, state := .dtlsAttachRequest }) env)
  | packet (env : AttacherEnv) (hm : ctx.moduleState ≠ .setup) :
      AttacherCase ctx (.packet env) (nmDtlsEventDoOne ctx env)
  | timerClosing (env : AttacherEnv) (hclosing : ctx.dtls.state = .closing) :
      AttacherCase ctx (.dtlsTimer env) { ctx with dtls := { ctx.dtls with timer := false } }
  | timer (env : AttacherEnv) (hopen : ctx.dtls.state ≠ .closing) :
      AttacherCase ctx (.dtlsTimer env)
        (nmDtlsEventDoOne { ctx with dtls := { ctx.dtls with timer := false } } env)
  | udpSentLast (coalesced : ℕ) (env : AttacherEnv) (hclosing : ctx.dtls.state = .closing) :
      AttacherCase ctx (.udpSent coalesced env) (nmDtlsDoClose { ctx with dtls := { ctx.dtls with
        udpSends := ctx.dtls.udpSends - (coalesced + 1), sending := false,
          sslSendBuffer := false } })
  | udpSent (coalesced : ℕ) (env : AttacherEnv) (hopen : ctx.dtls.state ≠ .closing) :
      AttacherCase ctx (.udpSent coalesced env) (nmDtlsEventDoOne { ctx with dtls := { ctx.dtls with
        udpSends := ctx.dtls.udpSends - (coalesced + 1), sending := false,
          sslSendBuffer := false } } env)
  | startSend (ret : WriteRet) (call : MbedtlsCall) :
      AttacherCase ctx (.startSend ret call) (nmMbedtlsCliStartSendDeferred
        { ctx with dtls := { ctx.dtls with startSendEvent := false } } ret call)
  | coapBusy : AttacherCase ctx .coapSend ctx
  | coapSend :
      AttacherCase ctx .coapSend { ctx with
        coapIsSending := true, dtls := asyncSendData ctx.dtls .coap }
  | coapDone {i : ℕ} {res : Option CoapClientResponse} {env : AttacherEnv} {ctx' : NcAttachContext}
      (hdone : coapRequestDone ctx i res env = some ctx') : AttacherCase ctx
      (.coapDone i res env) ctx'
  | keepAlive (env : AttacherEnv) (hk : ctx.keepAlive.armed = true) :
      AttacherCase ctx (.keepAlive env)
      (keepAliveEvent { ctx with keepAlive := { ctx.keepAlive with armed := false } } env)
  | reattachLate (ht : ctx.reattachTimer = true) (hm : ctx.moduleState = .closed) :
      AttacherCase ctx .reattach (handleStateChange
        { ctx with reattachTimer := false, state := .closed })
  | reattach (ht : ctx.reattachTimer = true) (hm : ctx.moduleState ≠ .closed) :
      AttacherCase ctx .reattach
        (handleStateChange
          { ctx with reattachTimer := false, state := .dns, redirectAttempts := 0 })
  | closeEv (hc : ctx.closeEv = true) :
      AttacherCase ctx .closeEv (resolveClose { ctx with closeEv := false })

theorem attacherCase_of_step {ctx ctx' : NcAttachContext} {e : AttacherEvent}
    (hstep : attacherStep ctx e = some ctx') : AttacherCase ctx e ctx' := by
  cases e with
  | start =>
    rw [← Option.some.inj hstep, ncAttacherStart]
    split_ifs with hm
    · exact .startRefused hm
    · exact .start (not_not.mp hm)
  | asyncClose env => exact Option.some.inj hstep ▸ .asyncClose env
  | stop env => exact Option.some.inj hstep ▸ .stop env
  | addToken token inserted env => exact Option.some.inj hstep ▸ .addToken token inserted env
  | dnsResolved ok env =>
    obtain ⟨hp, rfl⟩ := Machine.of_guard hstep
    rw [dnsResolvedCallback]
    split_ifs with hm hok
    · exact .resolvedLate ok env hp hm
    · exact hok ▸ .resolveFailed env hp hm
    · exact Bool.eq_true_of_not_eq_false hok ▸ .resolved env hp hm
  | packet env =>
    obtain ⟨hm, rfl⟩ := Machine.of_guard_not hstep
    exact .packet env hm
  | dtlsTimer env =>
    obtain ⟨-, rfl⟩ := Machine.of_guard hstep
    rw [nmDtlsTimedEventDoOne]
    split_ifs with hclosing
    · exact .timerClosing env hclosing
    · exact .timer env hclosing
  | udpSent coalesced env =>
    obtain ⟨-, rfl⟩ := Machine.of_guard hstep
    rw [nmDtlsUdpSendCallback]
    split_ifs with hclosing
    · exact .udpSentLast coalesced env hclosing
    · exact .udpSent coalesced env hclosing
  | startSend ret call =>
    obtain ⟨-, rfl⟩ := Machine.of_guard hstep
    exact .startSend ret call
  | coapSend =>
    obtain ⟨-, rfl⟩ := Machine.of_guard hstep
    rw [ncCoapClientHandleSend]
    split_ifs
    · exact .coapBusy
    · exact .coapSend
  | coapDone i res env => exact .coapDone hstep
  | keepAlive env =>
    obtain ⟨hk, rfl⟩ := Machine.of_guard hstep
    exact .keepAlive env hk
  | reattach =>
    obtain ⟨ht, rfl⟩ := Machine.of_guard hstep
    rw [NabtoDevice.reattach]
    split_ifs with hm
    · exact .reattachLate ht hm
    · exact .reattach ht hm
  | closeEv =>
    obtain ⟨hc, rfl⟩ := Machine.of_guard hstep
    exact .closeEv hc

end NabtoDevice
