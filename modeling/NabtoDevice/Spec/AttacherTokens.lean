import NabtoDevice.Spec.Attacher
import NabtoDevice.Spec.Platform

/-! The server connect tokens of `src/core/nc_attacher.c` and `nc_attacher_sct.c`, observed: what
the upload carried that was last answered with a success code, and whether a token has been
added since the upload in flight was started. -/

namespace NabtoDevice

def ncAttacherIsServerConnectTokensSynchronized (ctx : NcAttachContext) : NpErrorCode :=
  if ctx.state = .attached then
    if ctx.sctContext.synchronizedVersion = ctx.sctContext.version then .ok
    else .operationInProgress
  else .ok

/-- The tokens of an upload that the event answers with a success code. -/
def sctAcknowledged (ctx : NcAttachContext) : AttacherEvent → Option (List String)
  | .coapDone i (some res) _ =>
    match ctx.requests[i]? with
    | some ⟨.sctUpload scts, false⟩ => if ncCoapIsStatusOk res.code then some scts else none
    | _ => none
  | _ => none

def isAddToken : AttacherEvent → Bool
  | .addToken _ _ _ => true
  | _ => false

structure SctAttacher where
  ctx : NcAttachContext
  acked : Option (List String)
  /-- `nc_attacher_add_server_connect_token` was called since the upload in flight was started. -/
  late : Bool
  deriving DecidableEq

def sctAttacherStep (a : SctAttacher) (e : AttacherEvent) : Option SctAttacher :=
  (attacherStep a.ctx e).map fun ctx' =>
    { ctx := ctx'
      acked := (sctAcknowledged a.ctx e).or a.acked
      late :=
        (sctAcknowledged a.ctx e).isNone && a.ctx.sctContext.callback.isSome &&
          ctx'.sctContext.callback.isSome && (a.late || isAddToken e) }

def sctAttacher : Machine SctAttacher AttacherEvent :=
  ⟨⟨ncAttacherInit, none, false⟩, sctAttacherStep⟩

end NabtoDevice
