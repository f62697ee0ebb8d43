import NabtoDevice.Spec.Attacher
import NabtoDevice.Spec.Platform

/-! The completion handlers of the three requests of the attach procedure, in
`src/core/nc_attacher_attach_start.c`, `nc_attacher_sct.c` and `nc_attacher_attach_end.c`, up to
the call of the stored callback. A handler asks the CoAP client for the code and the payload of
a response; `none` is `NULL`, the response of a request whose connection was removed. -/

namespace NabtoDevice

inductive AttachCallback
  | attachStart (status : NcAttacherStatus)
  | sct (cb : NcAttacherSctCallback) (status : NpErrorCode)
  | attachEnd (status : NpErrorCode)
  deriving DecidableEq, Repr

/-- What a handler did before its callback ran. -/
structure HandledRequest where
  ctx : NcAttachContext
  /-- The responses whose code or payload was asked for. -/
  asked : List (Option CoapClientResponse)
  calls : List AttachCallback

/-- The rest error of a response without success is found in its payload. -/
def coapAttachStartHandled (ctx : NcAttachContext) (res : Option CoapClientResponse) :
    HandledRequest :=
  let r := coapAttachStartHandleResponse ctx res
  { ctx := { r.1 with startCallback := false }
    asked := if res = none then [] else [res, res]
    calls := if ctx.startCallback then [.attachStart r.2] else [] }

/-- `nullCode` is what the CoAP client finds as the code of `NULL`. -/
def sctRequestHandled (ctx : NcAttachContext) (nullCode : ℕ) (res : Option CoapClientResponse) :
    HandledRequest :=
  let resCode := (res.map (·.code)).getD nullCode
  let ok := ncCoapIsStatusOk resCode
  let sct := ctx.sctContext
  let sct := if ok then { sct with synchronizedVersion := sct.uploadingVersion } else sct
  { ctx := { ctx with sctContext := { sct with callback := none } }
    asked := [res]
    calls :=
      match ctx.sctContext.callback with
      | some cb => [.sct cb (if ok then .ok else .unknown)]
      | none => [] }

def coapAttachEndHandled (ctx : NcAttachContext) (res : Option CoapClientResponse) :
    HandledRequest :=
  { ctx := { ctx with endCallback := false }
    asked := if res = none then [] else [res]
    calls :=
      if ctx.endCallback then
        [.attachEnd
          (match res with
          | none => .unknown
          | some r => if ncCoapIsStatusOk r.code then .ok else .unknown)]
      else [] }

def requestHandled (kind : CoapRequestKind) (ctx : NcAttachContext) (nullCode : ℕ)
    (res : Option CoapClientResponse) : HandledRequest :=
  match kind with
  | .attachStart => coapAttachStartHandled ctx res
  | .sctUpload _ => sctRequestHandled ctx nullCode res
  | .attachEnd => coapAttachEndHandled ctx res

def runAttachCallback (ctx : NcAttachContext) (env : AttacherEnv) : AttachCallback → NcAttachContext
  | .attachStart status => coapAttachStartCallback ctx status env
  | .sct .attachSct status => sendAttachSctRequestCallback ctx (status = .ok) env
  | .sct .sct status => sendSctRequestCallback ctx (status = .ok) env
  | .attachEnd status => coapAttachEndCallback ctx (status = .ok) env

/-- A callback is stored for requests of the kind. -/
def storedCallback (ctx : NcAttachContext) : CoapRequestKind → Bool
  | .attachStart => ctx.startCallback
  | .sctUpload _ => ctx.sctContext.callback.isSome
  | .attachEnd => ctx.endCallback

def isOkResponse (res : Option CoapClientResponse) : Bool :=
  (res.map fun r => ncCoapIsStatusOk r.code).getD false

/-- What the handler of a request gets; a request of a removed connection has no response. -/
def responseOf (r : CoapClientRequest) (res : Option CoapClientResponse) :
    Option CoapClientResponse :=
  if r.removed then none else res

end NabtoDevice
