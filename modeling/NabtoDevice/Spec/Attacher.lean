import NabtoDevice.Spec.Dtls
import NabtoDevice.Lib.Machine

/-! The attacher of `src/core/nc_attacher.c` together with the DTLS client it
drives and the three CoAP requests of the attach procedure
(`nc_attacher_attach_start.c`, `nc_attacher_sct.c`, `nc_attacher_attach_end.c`).
Answers of mbedtls, of the allocator and of the CoAP library come with the event
as an `Env`. `trace` records what the device event listener receives, `dtlsConnects`
and `dtlsEvents` what passes between the attacher and the DTLS client. -/

namespace NabtoDevice

inductive NcAttacherAttachState
  | dns
  | dtlsAttachRequest
  | retryWait
  | accessDeniedWait
  | redirect
  | attached
  | closed
  deriving DecidableEq, Repr

inductive NcAttacherModuleState
  | setup
  | running
  | closed
  deriving DecidableEq, Repr

inductive NcDeviceEvent
  | attached
  | detached
  | closed
  deriving DecidableEq, Repr

inductive NpDtlsCliEvent
  | closed
  | handshakeComplete
  | accessDenied
  deriving DecidableEq, Repr

/-- The events after which a connection has ended. -/
def NpDtlsCliEvent.isTerminal : NpDtlsCliEvent → Bool
  | .closed | .accessDenied => true
  | .handshakeComplete => false

inductive NcAttacherStatus
  | attached
  | redirect
  | error
  deriving DecidableEq, Repr

/-- `send_attach_sct_request_callback` and `send_sct_request_callback`. -/
inductive NcAttacherSctCallback
  | attachSct
  | sct
  deriving DecidableEq, Repr

structure NcAttacherSctContext where
  scts : List String
  version : ℕ
  synchronizedVersion : ℕ
  uploadingVersion : ℕ
  callback : Option NcAttacherSctCallback
  deriving DecidableEq, Repr

inductive CoapRequestKind
  | attachStart
  | sctUpload (scts : List String)
  | attachEnd
  deriving DecidableEq, Repr

/-- A request the CoAP client has not completed yet. After
`nabto_coap_client_remove_connection` it completes without a response. -/
structure CoapClientRequest where
  kind : CoapRequestKind
  removed : Bool
  deriving DecidableEq, Repr

/-- What the CBOR payload of an attach start response holds. `invalid` is a
payload that is missing or not understood. -/
inductive AttachStartPayload
  | invalid
  | attached (keepAlive : Option (UInt64 × UInt64 × UInt64))
  | redirect
  deriving DecidableEq, Repr

structure CoapClientResponse where
  code : ℕ
  payload : AttachStartPayload
  deriving DecidableEq, Repr

structure NcAttachContext where
  state : NcAttacherAttachState
  moduleState : NcAttacherModuleState
  redirectAttempts : UInt8
  reattachTimer : Bool
  closeEv : Bool
  closedCb : Bool
  startCallback : Bool
  endCallback : Bool
  keepAlive : NcKeepAlive
  sctContext : NcAttacherSctContext
  dtls : NpDtlsCli
  /-- Resolutions started and not yet completed. -/
  dnsPending : ℕ
  requests : List CoapClientRequest
  /-- `isSending` of the CoAP client. -/
  coapIsSending : Bool
  /-- Calls of `nm_dtls_connect`. -/
  dtlsConnects : ℕ
  /-- What `dtls_event_handler` got since the last of them. -/
  dtlsEvents : List NpDtlsCliEvent
  trace : List NcDeviceEvent
  deriving DecidableEq, Repr

/-- The answers of the environment within one event. -/
structure AttacherEnv where
  handshake : HandshakeRet := .wantReadWrite
  read : ReadRet := .wantReadWrite
  call : MbedtlsCall := ⟨false, false⟩
  closeNotify : Bool := false
  alpn : Bool := true
  attachStartRequest : Bool := true
  sctRequest : Bool := true
  attachEndRequest : Bool := true
  /-- A request the CoAP client completes from inside `nm_mbedtls_cli_reset`. -/
  completesInReset : Option ℕ := none
  deriving DecidableEq, Repr

def maxRedirectFollow : UInt8 := 5

def ncAttacherInit : NcAttachContext where
  state := .dns
  moduleState := .setup
  redirectAttempts := 0
  reattachTimer := false
  closeEv := false
  closedCb := false
  startCallback := false
  endCallback := false
  keepAlive := ncKeepAliveInit
  sctContext := ⟨[], 0, 0, 0, none⟩
  dtls := nmMbedtlsCliCreate
  dnsPending := 0
  requests := []
  coapIsSending := false
  dtlsConnects := 0
  dtlsEvents := []
  trace := []

def ncCoapIsStatusOk (code : ℕ) : Bool := decide (200 ≤ code ∧ code < 300)

def dnsStartResolve (ctx : NcAttachContext) : NcAttachContext :=
  { ctx with dnsPending := ctx.dnsPending + 1 }

/-- In the state `DTLS_ATTACH_REQUEST` the handshake that `connect` goes on with
is left to `dns_resolved_callback`, the only way into that state. -/
def handleStateChange (ctx : NcAttachContext) : NcAttachContext :=
  match ctx.state with
  | .dns => dnsStartResolve ctx
  | .closed => { ctx with closeEv := true }
  | .redirect => ctx
  | .retryWait => { ctx with reattachTimer := true }
  | .accessDeniedWait => { ctx with reattachTimer := true }
  | .dtlsAttachRequest =>
    { ctx with
      dtls := nmDtlsConnect ctx.dtls
      dtlsConnects := ctx.dtlsConnects + 1
      dtlsEvents := [] }
  | .attached => ctx

def nabtoCoapClientRemoveConnection (ctx : NcAttachContext) : NcAttachContext :=
  { ctx with requests := ctx.requests.map fun r => { r with removed := true } }

def sendContextCb (ctx : NcAttachContext) : CliSendContext → NcAttachContext
  | .coap => { ctx with coapIsSending := false }
  | .keepAlive => { ctx with keepAlive := ncKeepAlivePacketSent ctx.keepAlive }

def dtlsReset (ctx : NcAttachContext) : NcAttachContext :=
  let ctx' := ctx.dtls.sendList.foldl sendContextCb ctx
  { ctx' with dtls := nmMbedtlsCliReset ctx'.dtls }

/-- The `switch` of `handle_dtls_closed`. -/
def dtlsClosedSwitch (ctx : NcAttachContext) : NcAttachContext :=
  match ctx.state with
  | .dtlsAttachRequest => handleStateChange { ctx with state := .retryWait }
  | .attached =>
    handleStateChange { ctx with state := .retryWait, trace := ctx.trace ++ [.detached] }
  | .redirect =>
    if ctx.redirectAttempts ≥ maxRedirectFollow then
      handleStateChange { ctx with state := .retryWait }
    else handleStateChange { ctx with state := .dns }
  | .accessDeniedWait => ctx
  | .dns | .retryWait | .closed => handleStateChange { ctx with state := .retryWait }

/-- A request completed from inside the reset finds the DTLS client in `CLOSING`
here, so it can as well complete after it. -/
def handleDtlsClosed (ctx : NcAttachContext) : NcAttachContext :=
  dtlsClosedSwitch (dtlsReset (nabtoCoapClientRemoveConnection ctx))

def recordDtlsEvent (ctx : NcAttachContext) (event : NpDtlsCliEvent) : NcAttachContext :=
  { ctx with dtlsEvents := ctx.dtlsEvents ++ [event] }

/-- `dtls_event_handler` on `NP_DTLS_CLI_EVENT_CLOSED`, that is `nm_dtls_do_close`. -/
def dtlsEventClosed (ctx : NcAttachContext) : NcAttachContext :=
  let ctx := recordDtlsEvent ctx .closed
  if ctx.moduleState = .closed then handleStateChange { ctx with state := .closed }
  else handleDtlsClosed { ctx with keepAlive := ncKeepAliveReset ctx.keepAlive }

def nmDtlsDoClose (ctx : NcAttachContext) : NcAttachContext :=
  dtlsEventClosed { ctx with dtls := { ctx.dtls with timer := false } }

def dtlsCliClose (ctx : NcAttachContext) (env : AttacherEnv) : NcAttachContext :=
  if ctx.dtls.state ≠ .closing then
    let ctx :=
      { ctx with dtls := mbedtlsSslCloseNotify { ctx.dtls with state := .closing } env.closeNotify }
    if ctx.dtls.sending = false then nmDtlsDoClose ctx else ctx
  else ctx

def coapAttachFailed (ctx : NcAttachContext) (env : AttacherEnv) : NcAttachContext :=
  dtlsCliClose ctx env

def coapRequestSend (ctx : NcAttachContext) (kind : CoapRequestKind) : NcAttachContext :=
  { ctx with requests := ctx.requests ++ [⟨kind, false⟩] }

/-- `some` is `NABTO_EC_OPERATION_STARTED`. -/
def ncAttacherAttachStartRequest (ctx : NcAttachContext) (env : AttacherEnv) :
    Option NcAttachContext :=
  if ctx.startCallback then none
  else if env.attachStartRequest = false then none
  else some (coapRequestSend { ctx with startCallback := true } .attachStart)

def sendAttachStartRequest (ctx : NcAttachContext) (env : AttacherEnv) : NcAttachContext :=
  match ncAttacherAttachStartRequest ctx env with
  | some ctx' => ctx'
  | none => coapAttachFailed ctx env

/-- `some` is `NABTO_EC_OPERATION_STARTED`. -/
def ncAttacherAttachEndRequest (ctx : NcAttachContext) (env : AttacherEnv) :
    Option NcAttachContext :=
  if ctx.endCallback then none
  else if env.attachEndRequest = false then none
  else some (coapRequestSend { ctx with endCallback := true } .attachEnd)

def sendAttachEndRequest (ctx : NcAttachContext) (env : AttacherEnv) : NcAttachContext :=
  match ncAttacherAttachEndRequest ctx env with
  | some ctx' => ctx'
  | none => coapAttachFailed ctx env

inductive SctUploadResult
  | noOperation
  | started (ctx : NcAttachContext)
  | failed

def ncAttacherSctUpload (ctx : NcAttachContext) (cb : NcAttacherSctCallback) (env : AttacherEnv) :
    SctUploadResult :=
  let sct := ctx.sctContext
  if sct.version = sct.synchronizedVersion then .noOperation
  else if sct.callback ≠ none then .failed
  else if env.sctRequest = false then .failed
  else
    .started (coapRequestSend
      { ctx with sctContext := { sct with callback := some cb, uploadingVersion := sct.version } }
      (.sctUpload sct.scts))

def sendAttachSctRequest (ctx : NcAttachContext) (env : AttacherEnv) : NcAttachContext :=
  match ncAttacherSctUpload ctx .attachSct env with
  | .noOperation => sendAttachEndRequest ctx env
  | .started ctx' => ctx'
  | .failed => coapAttachFailed ctx env

def sendSctRequest (ctx : NcAttachContext) (env : AttacherEnv) : NcAttachContext :=
  match ncAttacherSctUpload ctx .sct env with
  | .noOperation => ctx
  | .started ctx' => ctx'
  | .failed => ctx

def coapAttachStartCallback (ctx : NcAttachContext) (status : NcAttacherStatus)
    (env : AttacherEnv) : NcAttachContext :=
  if ctx.moduleState = .closed then coapAttachFailed ctx env
  else
    match status with
    | .attached => sendAttachSctRequest ctx env
    | .redirect =>
      dtlsCliClose
        { ctx with state := .redirect, redirectAttempts := ctx.redirectAttempts + 1 } env
    | .error => coapAttachFailed ctx env

def sendAttachSctRequestCallback (ctx : NcAttachContext) (ok : Bool) (env : AttacherEnv) :
    NcAttachContext :=
  if ctx.moduleState = .closed then coapAttachFailed ctx env
  else if ok then sendAttachEndRequest ctx env
  else coapAttachFailed ctx env

def sendSctRequestCallback (ctx : NcAttachContext) (ok : Bool) (env : AttacherEnv) :
    NcAttachContext :=
  if ok then sendSctRequest ctx env else ctx

/-- `coap_attach_end_handler` of `nc_attacher.c`. -/
def coapAttachEndCallback (ctx : NcAttachContext) (ok : Bool) (env : AttacherEnv) :
    NcAttachContext :=
  if ok = false then coapAttachFailed ctx env
  else if ctx.moduleState = .closed then coapAttachFailed ctx env
  else
    let ctx :=
      handleStateChange
        { ctx with keepAlive := ncKeepAliveWait ctx.keepAlive, state := .attached }
    sendSctRequest { ctx with trace := ctx.trace ++ [.attached] } env

def handleAttached (ctx : NcAttachContext) :
    Option (UInt64 × UInt64 × UInt64) → NcAttachContext
  | none => ctx
  | some (interval, retryInterval, maxRetries) =>
    { ctx with
      keepAlive := ncKeepAliveSetSettings ctx.keepAlive interval.toUInt32 retryInterval.toUInt32
        maxRetries.toUInt32 }

def coapAttachStartHandleResponse (ctx : NcAttachContext) :
    Option CoapClientResponse → NcAttachContext × NcAttacherStatus
  | none => (ctx, .error)
  | some res =>
    if ncCoapIsStatusOk res.code = false then (ctx, .error)
    else
      match res.payload with
      | .invalid => (ctx, .error)
      | .attached keepAlive => (handleAttached ctx keepAlive, .attached)
      | .redirect => (ctx, .redirect)

def coapAttachStartHandler (ctx : NcAttachContext) (res : Option CoapClientResponse)
    (env : AttacherEnv) : NcAttachContext :=
  let (ctx, result) := coapAttachStartHandleResponse ctx res
  coapAttachStartCallback { ctx with startCallback := false } result env

/-- The code of a missing response is read from `NULL`. Where that does not
fault it is taken not to be a success code. -/
def sctRequestHandler (ctx : NcAttachContext) (cb : NcAttacherSctCallback)
    (res : Option CoapClientResponse) (env : AttacherEnv) : NcAttachContext :=
  let resCode := (res.map (·.code)).getD 0
  let ok := ncCoapIsStatusOk resCode
  let sct := ctx.sctContext
  let sct := if ok then { sct with synchronizedVersion := sct.uploadingVersion } else sct
  let ctx := { ctx with sctContext := { sct with callback := none } }
  match cb with
  | .attachSct => sendAttachSctRequestCallback ctx ok env
  | .sct => sendSctRequestCallback ctx ok env

/-- `coap_attach_end_handler` of `nc_attacher_attach_end.c`. -/
def coapAttachEndHandler (ctx : NcAttachContext) (res : Option CoapClientResponse)
    (env : AttacherEnv) : NcAttachContext :=
  let ok := (res.map fun r => ncCoapIsStatusOk r.code).getD false
  coapAttachEndCallback { ctx with endCallback := false } ok env

/-- The CoAP client completes its `i`-th request. `none` if there is no such
request or its callback is `NULL`. -/
def coapRequestDone (ctx : NcAttachContext) (i : ℕ) (res : Option CoapClientResponse)
    (env : AttacherEnv) : Option NcAttachContext :=
  match ctx.requests[i]? with
  | none => none
  | some request =>
    let res := if request.removed then none else res
    let ctx := { ctx with requests := ctx.requests.eraseIdx i }
    match request.kind with
    | .attachStart => if ctx.startCallback then some (coapAttachStartHandler ctx res env) else none
    | .sctUpload _ => ctx.sctContext.callback.map fun cb => sctRequestHandler ctx cb res env
    | .attachEnd => if ctx.endCallback then some (coapAttachEndHandler ctx res env) else none

def handleDtlsConnected (ctx : NcAttachContext) (env : AttacherEnv) : NcAttachContext :=
  if env.alpn = false then dtlsCliClose ctx env else sendAttachStartRequest ctx env

/-- The flush of a queued CoAP packet can make the CoAP client complete a request. -/
def coapCompleteInReset (ctx : NcAttachContext) (env : AttacherEnv) : NcAttachContext :=
  match env.completesInReset with
  | some i =>
    if .coap ∈ ctx.dtls.sendList then (coapRequestDone ctx i none env).getD ctx else ctx
  | none => ctx

/-- The DTLS client may still be in the state `DATA` here. Then a removed request
that completes from inside the reset closes it. -/
def handleDtlsAccessDenied (ctx : NcAttachContext) (env : AttacherEnv) : NcAttachContext :=
  let ctx := coapCompleteInReset (nabtoCoapClientRemoveConnection ctx) env
  handleStateChange { dtlsReset ctx with state := .accessDeniedWait }

def dtlsEventHandler (ctx : NcAttachContext) (event : NpDtlsCliEvent) (env : AttacherEnv) :
    NcAttachContext :=
  match event with
  | .closed => dtlsEventClosed ctx
  | .handshakeComplete =>
    let ctx := recordDtlsEvent ctx event
    if ctx.moduleState = .closed then dtlsCliClose ctx env else handleDtlsConnected ctx env
  | .accessDenied =>
    let ctx := recordDtlsEvent ctx event
    if ctx.moduleState = .closed then handleStateChange { ctx with state := .closed }
    else
      handleDtlsAccessDenied { ctx with keepAlive := ncKeepAliveReset ctx.keepAlive } env

def keepAliveSendResponse (ctx : NcAttachContext) (buffer : List UInt8) : NcAttachContext :=
  match ncKeepAliveHandleRequest ctx.keepAlive buffer with
  | none => ctx
  | some ka => { ctx with keepAlive := ka, dtls := asyncSendData ctx.dtls .keepAlive }

def handleKeepAliveData (ctx : NcAttachContext) (buffer : List UInt8) : NcAttachContext :=
  if buffer.length < 2 then ctx
  else if buffer[1]? = some ctKeepAliveRequest then keepAliveSendResponse ctx buffer
  else ctx

/-- What a CoAP packet completes is an event of its own. -/
def dtlsDataHandler (ctx : NcAttachContext) (buffer : List UInt8) : NcAttachContext :=
  match buffer with
  | [] => ctx
  | applicationType :: _ =>
    if applicationType = atKeepAlive then handleKeepAliveData ctx buffer else ctx

def nmDtlsEventDoOne (ctx : NcAttachContext) (env : AttacherEnv) : NcAttachContext :=
  match ctx.dtls.state with
  | .connecting =>
    let dtls := mbedtlsCall ctx.dtls env.call
    match env.handshake with
    | .wantReadWrite => { ctx with dtls := dtls }
    | .accessDenied =>
      dtlsEventHandler { ctx with dtls := { dtls with state := .closing, timer := false } }
        .accessDenied env
    | .error =>
      dtlsEventHandler { ctx with dtls := { dtls with state := .closing, timer := false } }
        .closed env
    | .done => dtlsEventHandler { ctx with dtls := { dtls with state := .data } }
        .handshakeComplete env
  | .data =>
    let dtls := mbedtlsCall ctx.dtls env.call
    match env.read with
    | .eof => { ctx with dtls := { dtls with state := .closing } }
    | .data buffer =>
      dtlsDataHandler { ctx with dtls := { dtls with recvCount := dtls.recvCount + 1 } } buffer
    | .wantReadWrite => { ctx with dtls := dtls }
    | .accessDenied =>
      dtlsEventHandler { ctx with dtls := { dtls with timer := false } } .accessDenied env
    | .error => nmDtlsDoClose { ctx with dtls := { dtls with state := .closing } }
  | .closing => ctx

def nmDtlsUdpSendCallback (ctx : NcAttachContext) (env : AttacherEnv) : NcAttachContext :=
  let ctx := { ctx with dtls := { ctx.dtls with sending := false, sslSendBuffer := false } }
  if ctx.dtls.state = .closing then nmDtlsDoClose ctx else nmDtlsEventDoOne ctx env

def nmDtlsTimedEventDoOne (ctx : NcAttachContext) (env : AttacherEnv) : NcAttachContext :=
  if ctx.dtls.state = .closing then ctx else nmDtlsEventDoOne ctx env

def nmMbedtlsCliStartSendDeferred (ctx : NcAttachContext) (ret : WriteRet) (call : MbedtlsCall) :
    NcAttachContext :=
  if ctx.dtls.state = .closing then ctx
  else if ctx.dtls.sending then ctx
  else
    match ctx.dtls.sendList with
    | [] => ctx
    | next :: rest =>
      let dtls := mbedtlsCall { ctx.dtls with sendList := rest } call
      let sentCount := if ret = .written then dtls.sentCount + 1 else dtls.sentCount
      sendContextCb
        { ctx with dtls := { dtls with sentCount := sentCount, startSendEvent := true } } next

/-- `nc_coap_client_handle_send`. -/
def ncCoapClientHandleSend (ctx : NcAttachContext) : NcAttachContext :=
  if ctx.coapIsSending then ctx
  else { ctx with coapIsSending := true, dtls := asyncSendData ctx.dtls .coap }

def dnsResolvedCallback (ctx : NcAttachContext) (ok : Bool) (env : AttacherEnv) :
    NcAttachContext :=
  if ctx.moduleState = .closed then handleStateChange { ctx with state := .closed }
  else if ok = false then handleStateChange { ctx with state := .retryWait }
  else nmDtlsEventDoOne (handleStateChange { ctx with state := .dtlsAttachRequest }) env

def reattach (ctx : NcAttachContext) : NcAttachContext :=
  if ctx.moduleState = .closed then handleStateChange { ctx with state := .closed }
  else handleStateChange { ctx with state := .dns, redirectAttempts := 0 }

def keepAliveSendReq (ctx : NcAttachContext) : NcAttachContext :=
  { ctx with
    keepAlive := ncKeepAliveCreateRequest ctx.keepAlive
    dtls := asyncSendData ctx.dtls .keepAlive }

def keepAliveEvent (ctx : NcAttachContext) (env : AttacherEnv) : NcAttachContext :=
  let (ka, action) :=
    ncKeepAliveShouldSend ctx.keepAlive ctx.dtls.recvCount ctx.dtls.sentCount
  let ctx := { ctx with keepAlive := ka }
  match action with
  | .doNothing => { ctx with keepAlive := ncKeepAliveWait ctx.keepAlive }
  | .sendKa =>
    let ctx := keepAliveSendReq ctx
    { ctx with keepAlive := ncKeepAliveWait ctx.keepAlive }
  | .kaTimeout => dtlsCliClose ctx env

def ncAttacherStart (ctx : NcAttachContext) : NcAttachContext :=
  if ctx.moduleState ≠ .setup then ctx
  else handleStateChange { ctx with state := .dns, moduleState := .running }

def doClose (ctx : NcAttachContext) (env : AttacherEnv) : NcAttachContext :=
  if ctx.moduleState = .setup then { ctx with closeEv := true }
  else
    let ctx := { ctx with moduleState := .closed }
    match ctx.state with
    | .retryWait | .accessDeniedWait =>
      handleStateChange { ctx with reattachTimer := false, state := .closed }
    | .closed => { ctx with closeEv := true }
    | .dtlsAttachRequest | .attached => dtlsCliClose ctx env
    | .dns | .redirect => ctx

def ncAttacherAsyncClose (ctx : NcAttachContext) (env : AttacherEnv) : NcAttachContext :=
  doClose { ctx with closedCb := true } env

def ncAttacherStop (ctx : NcAttachContext) (env : AttacherEnv) : NcAttachContext :=
  doClose { ctx with keepAlive := ncKeepAliveStop ctx.keepAlive } env

/-- `inserted` is the answer of `nn_string_set_insert`. -/
def ncAttacherAddServerConnectToken (ctx : NcAttachContext) (token : String) (inserted : Bool)
    (env : AttacherEnv) : NcAttachContext :=
  let sct := { ctx.sctContext with version := (ctx.sctContext.version + 1) % 2 ^ 64 }
  if inserted = false then { ctx with sctContext := sct }
  else
    let ctx := { ctx with sctContext := { sct with scts := sct.scts.insert token } }
    if ctx.state = .attached then sendSctRequest ctx env else ctx

def resolveClose (ctx : NcAttachContext) : NcAttachContext :=
  { ctx with reattachTimer := false, closeEv := false, closedCb := false }

inductive AttacherEvent
  | start
  | asyncClose (env : AttacherEnv)
  | stop (env : AttacherEnv)
  | addToken (token : String) (inserted : Bool) (env : AttacherEnv)
  | dnsResolved (ok : Bool) (env : AttacherEnv)
  | packet (env : AttacherEnv)
  | dtlsTimer (env : AttacherEnv)
  /-- `coalesced` more sends completed before the event queue ran the callback. -/
  | udpSent (coalesced : ℕ) (env : AttacherEnv)
  | startSend (ret : WriteRet) (call : MbedtlsCall)
  | coapSend
  | coapDone (i : ℕ) (res : Option CoapClientResponse) (env : AttacherEnv)
  | keepAlive (env : AttacherEnv)
  | reattach
  | closeEv
  deriving DecidableEq, Repr

/-- A callback runs only if what it completes is outstanding. Packets arrive once
the attacher has been registered with the UDP dispatcher by `nc_attacher_start`. -/
def attacherStep (ctx : NcAttachContext) : AttacherEvent → Option NcAttachContext
  | .start => some (ncAttacherStart ctx)
  | .asyncClose env => some (ncAttacherAsyncClose ctx env)
  | .stop env => some (ncAttacherStop ctx env)
  | .addToken token inserted env =>
    some (ncAttacherAddServerConnectToken ctx token inserted env)
  | .dnsResolved ok env =>
    if 0 < ctx.dnsPending then
      some (dnsResolvedCallback { ctx with dnsPending := ctx.dnsPending - 1 } ok env)
    else none
  | .packet env => if ctx.moduleState = .setup then none else some (nmDtlsEventDoOne ctx env)
  | .dtlsTimer env =>
    if ctx.dtls.timer then
      some (nmDtlsTimedEventDoOne { ctx with dtls := { ctx.dtls with timer := false } } env)
    else none
  | .udpSent coalesced env =>
    if coalesced < ctx.dtls.udpSends then
      some (nmDtlsUdpSendCallback
        { ctx with dtls := { ctx.dtls with udpSends := ctx.dtls.udpSends - (coalesced + 1) } } env)
    else none
  | .startSend ret call =>
    if ctx.dtls.startSendEvent then
      some (nmMbedtlsCliStartSendDeferred
        { ctx with dtls := { ctx.dtls with startSendEvent := false } } ret call)
    else none
  | .coapSend =>
    if ctx.requests.any fun r => !r.removed then some (ncCoapClientHandleSend ctx) else none
  | .coapDone i res env => coapRequestDone ctx i res env
  | .keepAlive env =>
    if ctx.keepAlive.armed then
      some (keepAliveEvent { ctx with keepAlive := { ctx.keepAlive with armed := false } } env)
    else none
  | .reattach =>
    if ctx.reattachTimer then some (reattach { ctx with reattachTimer := false }) else none
  | .closeEv => if ctx.closeEv then some (resolveClose { ctx with closeEv := false }) else none

def attacher : Machine NcAttachContext AttacherEvent := ⟨ncAttacherInit, attacherStep⟩

end NabtoDevice
