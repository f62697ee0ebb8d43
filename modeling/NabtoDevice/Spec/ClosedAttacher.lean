import NabtoDevice.Spec.Attacher

/-! The attacher from the outside of `nc_attacher_async_close`: the call of the closed
callback, the events the attacher has posted for itself, and what still makes it or its
DTLS client act. `called` says that the callback has been called before. -/

namespace NabtoDevice

/-- `resolve_close` calls the closed callback. -/
def callsClosedCb (ctx : NcAttachContext) : AttacherEvent → Bool
  | .closeEv => ctx.closedCb
  | _ => false

/-- `reattachTimer`, `closeEv` or the keep alive event is posted. -/
def ownEventPending (ctx : NcAttachContext) : Bool :=
  ctx.reattachTimer || ctx.closeEv || ctx.keepAlive.armed

/-- The event makes the attacher call the resolver or the DTLS client, makes the DTLS client
call mbedtls or the attacher, or is a keep alive tick. -/
def acts (ctx : NcAttachContext) : AttacherEvent → Bool
  | .start => ctx.moduleState = .setup
  | .asyncClose _ | .stop _ =>
    ctx.moduleState ≠ .setup && (ctx.state = .dtlsAttachRequest || ctx.state = .attached)
  | .addToken _ _ _ => ctx.state = .attached
  | .packet _ | .dtlsTimer _ | .startSend _ _ => ctx.dtls.state ≠ .closing
  | .dnsResolved _ _ | .udpSent _ _ | .coapSend | .coapDone _ _ _ | .keepAlive _ | .reattach => true
  | .closeEv => false

structure ClosedAttacher where
  ctx : NcAttachContext
  called : Bool
  deriving DecidableEq, Repr

def closedAttacherStep (a : ClosedAttacher) (e : AttacherEvent) : Option ClosedAttacher :=
  (attacherStep a.ctx e).map fun ctx => ⟨ctx, a.called || callsClosedCb a.ctx e⟩

def closedAttacher : Machine ClosedAttacher AttacherEvent :=
  ⟨⟨ncAttacherInit, false⟩, closedAttacherStep⟩

end NabtoDevice
