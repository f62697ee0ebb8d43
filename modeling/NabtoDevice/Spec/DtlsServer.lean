import NabtoDevice.Spec.ClientConnection
import NabtoDevice.Spec.DtlsClient

/-! A connection of the DTLS server module (`src/modules/mbedtls/nm_mbedtls_srv.c`) with
any owner, in the manner of the client module: `frames` holds what the module still does
when the callbacks into the owner return. The channels only matter to the owner and are
left out. A UDP send that `sender` took completes once, with OK or an error. -/

namespace NabtoDevice

inductive SrvFrame
  | done
  | handlePacket
  | sendCallback
  | destroyConnection
  deriving DecidableEq, Repr

inductive SrvNotice
  | event (event : NpDtlsSrvEvent)
  | closeCb
  deriving DecidableEq, Repr

structure DtlsServer where
  state : SslState
  recvCount : UInt32
  sentCount : UInt32
  sendList : TicketQueue ℕ NpErrorCode
  startSendEvent : Bool
  deferredEvent : NpDtlsSrvEvent
  deferredEventEvent : Bool
  closeEv : Bool
  closeCb : Bool
  sending : Bool
  timer : Bool
  freed : Bool
  frames : List SrvFrame
  notices : List SrvNotice
  /-- The calls of `async_send_data` whose buffers were given to `mbedtls_ssl_write`. -/
  written : List ℕ
  deriving DecidableEq, Repr

structure SrvModuleEnv where
  handshake : SrvHandshakeRet := .wantReadWrite
  read : SrvReadRet := .wantReadWrite
  use : MbedtlsUse := {}
  deriving DecidableEq, Repr

namespace DtlsServer

/-- `nm_mbedtls_srv_create_connection`. -/
def createConnection : DtlsServer where
  state := .connecting
  recvCount := 0
  sentCount := 0
  sendList := TicketQueue.empty
  startSendEvent := false
  deferredEvent := .closed
  deferredEventEvent := false
  closeEv := false
  closeCb := false
  sending := false
  timer := false
  freed := false
  frames := []
  notices := []
  written := []

def tell (ctx : DtlsServer) (notice : SrvNotice) : DtlsServer :=
  { ctx with notices := ctx.notices ++ [notice], frames := .done :: ctx.frames }

def dataHandler (ctx : DtlsServer) (rest : SrvFrame) : DtlsServer :=
  { ctx with frames := rest :: ctx.frames }

def sendCb (ctx : DtlsServer) (first : Ticket ℕ) (others : List (Ticket ℕ)) (ec : NpErrorCode)
    (rest : SrvFrame) : DtlsServer :=
  { ctx with sendList := ctx.sendList.serve first others ec, frames := rest :: ctx.frames }

/-- `nm_mbedtls_srv_mbedtls_send`. -/
def mbedtlsSend (ctx : DtlsServer) (record : RecordSend) : DtlsServer :=
  if ctx.sending then ctx
  else match record with
    | .none | .refused => ctx
    | .taken => { ctx with sending := true }

def mbedtls (ctx : DtlsServer) (use : MbedtlsUse) : DtlsServer :=
  { ctx.mbedtlsSend use.record with timer := use.timer }

/-- The loop of `nm_mbedtls_srv_destroy_connection` and what follows it. -/
def destroyLoop (ctx : DtlsServer) : DtlsServer :=
  match ctx.sendList.waiting with
  | [] => { ctx with
      timer := false, closeEv := false, startSendEvent := false, deferredEventEvent := false
      freed := true }
  | first :: others => ctx.sendCb first others .connectionClosing .destroyConnection

def destroyConnection (ctx : DtlsServer) : DtlsServer := destroyLoop { ctx with state := .closing }

def resume (ctx : DtlsServer) : SrvFrame → DtlsServer
  | .done => ctx
  | .handlePacket => ctx
  | .sendCallback => { ctx with startSendEvent := true }
  | .destroyConnection => ctx.destroyLoop

/-- `deferred_event_callback`. -/
def deferredEventCallback (ctx : DtlsServer) (event : NpDtlsSrvEvent) : DtlsServer :=
  { ctx with deferredEvent := event, deferredEventEvent := true }

/-- `nm_mbedtls_srv_do_one`, called by a function that goes on with `rest`. -/
def doOne (ctx : DtlsServer) (env : SrvModuleEnv) (rest : SrvFrame) : DtlsServer :=
  match ctx.state with
  | .connecting =>
    let ctx := ctx.mbedtls env.use
    match env.handshake with
    | .wantReadWrite => ctx.resume rest
    | .done => resume (deferredEventCallback { ctx with state := .data } .handshakeComplete) rest
    | .timeout | .error =>
      resume (deferredEventCallback { ctx with timer := false, state := .closing } .closed) rest
  | .data =>
    let ctx := ctx.mbedtls env.use
    match env.read with
    | .eof => resume { ctx with state := .closing } rest
    | .data _ _ => dataHandler { ctx with recvCount := ctx.recvCount + 1 } rest
    | .wantReadWrite => ctx.resume rest
    | .closeNotify | .error =>
      resume (deferredEventCallback { ctx with state := .closing } .closed) rest
  | .closing => ctx.resume rest

/-- `nm_mbedtls_srv_do_event_callback`. -/
def doEventCallback (ctx : DtlsServer) : DtlsServer :=
  if ctx.state = .closing ∧ ctx.sending then { ctx with deferredEventEvent := true }
  else ctx.tell (.event ctx.deferredEvent)

/-- `nm_mbedtls_srv_start_send_deferred`. -/
def startSendDeferred (ctx : DtlsServer) (ret : WriteRet) (use : MbedtlsUse) : DtlsServer :=
  if ctx.sending then ctx
  else match ctx.sendList.waiting with
    | [] => ctx
    | next :: others =>
      let ctx := ctx.mbedtls use
      sendCb
        { ctx with
          written := ctx.written ++ [next.number]
          sentCount := if ret = .written then ctx.sentCount + 1 else ctx.sentCount }
        next others (DtlsClient.writeCode ret) .done

def asyncSendData (ctx : DtlsServer) (sendCtx : ℕ) : DtlsServer :=
  if ctx.state = .closing then { ctx with sendList := ctx.sendList.refuse }
  else { ctx with sendList := ctx.sendList.accept sendCtx, startSendEvent := true }

/-- `nm_mbedtls_srv_event_close`. -/
def eventClose (ctx : DtlsServer) : DtlsServer :=
  if ctx.sending then { ctx with closeEv := true }
  else
    let closeCb := ctx.closeCb
    let ctx := { ctx with
      timer := false, closeEv := false, startSendEvent := false, deferredEventEvent := false
      closeCb := false }
    if closeCb then ctx.tell .closeCb else ctx

/-- `nm_mbedtls_srv_async_close`, which every caller gives a callback. -/
def asyncClose (ctx : DtlsServer) (record : RecordSend) : DtlsServer :=
  if ctx.state = .closing then ctx
  else { mbedtlsSend { ctx with closeCb := true, state := .closing } record with closeEv := true }

/-- `nm_mbedtls_srv_connection_send_callback`. -/
def connectionSendCallback (ctx : DtlsServer) (ok : Bool) (env : SrvModuleEnv) : DtlsServer :=
  let ctx := { ctx with sending := false }
  if !ok then ctx
  else if ctx.state = .closing then ctx
  else ctx.doOne env .sendCallback

end DtlsServer

inductive DtlsServerEvent
  | packet (env : SrvModuleEnv)
  | timer (env : SrvModuleEnv)
  | udpDone (ok : Bool) (env : SrvModuleEnv)
  | startSend (ret : WriteRet) (use : MbedtlsUse)
  | deferredEvent
  | closeEvent
  | close (record : RecordSend)
  | send (sendCtx : ℕ)
  | destroy
  | ret
  deriving DecidableEq, Repr

/-- The owner does not submit a context that is still queued and does not destroy the
connection in a callback after which the module goes on with it. -/
def dtlsServerStep (ctx : DtlsServer) (e : DtlsServerEvent) : Option DtlsServer :=
  if ctx.freed then none
  else match e with
    | .packet env => if ctx.frames = [] then some (ctx.doOne env .handlePacket) else none
    | .timer env =>
      if ctx.frames = [] ∧ ctx.timer then
        some (DtlsServer.doOne { ctx with timer := false } env .done)
      else none
    | .udpDone ok env =>
      if ctx.frames = [] ∧ ctx.sending then some (ctx.connectionSendCallback ok env) else none
    | .startSend ret use =>
      if ctx.frames = [] ∧ ctx.startSendEvent then
        some (DtlsServer.startSendDeferred { ctx with startSendEvent := false } ret use)
      else none
    | .deferredEvent =>
      if ctx.frames = [] ∧ ctx.deferredEventEvent then
        some (DtlsServer.doEventCallback { ctx with deferredEventEvent := false })
      else none
    | .closeEvent =>
      if ctx.frames = [] ∧ ctx.closeEv then
        some (DtlsServer.eventClose { ctx with closeEv := false })
      else none
    | .close record => some (ctx.asyncClose record)
    | .send sendCtx =>
      if ctx.sendList.waiting.any (·.item = sendCtx) then none else some (ctx.asyncSendData sendCtx)
    | .destroy => if ctx.frames.all (· = .done) then some ctx.destroyConnection else none
    | .ret =>
      match ctx.frames with
      | [] => none
      | rest :: frames => some (DtlsServer.resume { ctx with frames := frames } rest)

def dtlsServer : Machine DtlsServer DtlsServerEvent := ⟨DtlsServer.createConnection, dtlsServerStep⟩

end NabtoDevice
