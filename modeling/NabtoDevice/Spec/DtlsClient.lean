import NabtoDevice.Spec.Attacher
import NabtoDevice.Spec.Platform
import NabtoDevice.Lib.TicketQueue

/-! The DTLS client module (`src/modules/mbedtls/nm_mbedtls_cli.c`) with any owner. The
owner is the code behind `eventHandler`, `dataHandler` and the callbacks of the send
contexts. While such a callback runs the owner may call the module again, so a callback
is a step of its own: `frames` holds, innermost first, what the module still does when
the callback returns, and the event `ret` is that return. The event queue runs nothing
while a callback runs. mbedtls and `sender` are the environment. Every send context has a
callback, as all those of the core have. -/

namespace NabtoDevice

/-- What becomes of the first record that mbedtls hands to the send function. -/
inductive RecordSend
  | none
  | taken
  | refused
  deriving DecidableEq, Repr

/-- What a call into mbedtls does besides its return value. -/
structure MbedtlsUse where
  record : RecordSend := .none
  timer : Bool := false
  deriving DecidableEq, Repr

/-- The rest of a function of the module after a callback. -/
inductive CliFrame
  | done
  | handlePacket
  | udpSendCallback
  | closeNotify
  | reset
  | startSend
  | doFree
  deriving DecidableEq, Repr

structure DtlsClient where
  state : SslState
  recvCount : UInt32
  sentCount : UInt32
  /-- `sslSendBufferSize` is not zero. -/
  sslSendBuffer : Bool
  /-- The send contexts are numbered; each waits with the call that submitted it. -/
  sendList : TicketQueue ℕ NpErrorCode
  startSendEvent : Bool
  sending : Bool
  receiving : Bool
  destroyed : Bool
  timer : Bool
  /-- Packets given to `sender` whose callback is still to come. -/
  udpSends : ℕ
  freed : Bool
  frames : List CliFrame
  /-- What `eventHandler` got since the last `nm_dtls_connect`. -/
  events : List NpDtlsCliEvent
  /-- The calls of `async_send_data` whose buffers were given to `mbedtls_ssl_write`. -/
  written : List ℕ
  deriving DecidableEq, Repr

structure CliEnv where
  handshake : HandshakeRet := .wantReadWrite
  read : ReadRet := .wantReadWrite
  use : MbedtlsUse := {}
  deriving DecidableEq, Repr

namespace DtlsClient

/-- The context as `nm_mbedtls_cli_create` leaves it. -/
def create : DtlsClient where
  state := .connecting
  recvCount := 0
  sentCount := 0
  sslSendBuffer := false
  sendList := TicketQueue.empty
  startSendEvent := false
  sending := false
  receiving := false
  destroyed := false
  timer := false
  udpSends := 0
  freed := false
  frames := []
  events := []
  written := []

def eventHandler (ctx : DtlsClient) (event : NpDtlsCliEvent) (rest : CliFrame) : DtlsClient :=
  { ctx with events := ctx.events ++ [event], frames := rest :: ctx.frames }

def dataHandler (ctx : DtlsClient) (rest : CliFrame) : DtlsClient :=
  { ctx with frames := rest :: ctx.frames }

/-- The callback of the send context at the front of the list, which is taken off it. -/
def sendCb (ctx : DtlsClient) (first : Ticket ℕ) (others : List (Ticket ℕ)) (ec : NpErrorCode)
    (rest : CliFrame) : DtlsClient :=
  { ctx with sendList := ctx.sendList.serve first others ec, frames := rest :: ctx.frames }

/-- `nm_dtls_mbedtls_send` in a state other than `CLOSING`. -/
def mbedtlsSend (ctx : DtlsClient) (record : RecordSend) : DtlsClient :=
  if ctx.sslSendBuffer then ctx
  else match record with
    | .none => ctx
    | .taken => { ctx with sending := true, sslSendBuffer := true, udpSends := ctx.udpSends + 1 }
    | .refused => { ctx with sending := false }

/-- A call of `mbedtls_ssl_handshake`, `mbedtls_ssl_read` or `mbedtls_ssl_write`. -/
def mbedtls (ctx : DtlsClient) (use : MbedtlsUse) : DtlsClient :=
  { ctx.mbedtlsSend use.record with timer := use.timer }

/-- The loop of `nm_mbedtls_cli_reset` and what follows it. -/
def resetLoop (ctx : DtlsClient) : DtlsClient :=
  match ctx.sendList.waiting with
  | [] => { ctx with sslSendBuffer := false, timer := false, startSendEvent := false }
  | first :: others => ctx.sendCb first others .connectionClosing .reset

/-- `nm_mbedtls_cli_do_free`. -/
def doFree (ctx : DtlsClient) : DtlsClient :=
  match ctx.sendList.waiting with
  | [] => { ctx with timer := false, startSendEvent := false, freed := true }
  | first :: others => ctx.sendCb first others .connectionClosing .doFree

/-- `nm_dtls_do_close`. -/
def doClose (ctx : DtlsClient) (rest : CliFrame) : DtlsClient :=
  eventHandler { ctx with timer := false } .closed rest

/-- What is left to do when a callback returns. The send function, which may have
called back from inside `mbedtls_ssl_close_notify`, returns into `dtls_cli_close`. -/
def resume (ctx : DtlsClient) : CliFrame → DtlsClient
  | .done => ctx
  | .handlePacket =>
    let ctx := { ctx with receiving := false }
    if ctx.destroyed && !ctx.sending then ctx.doFree else ctx
  | .udpSendCallback => if ctx.destroyed then ctx.doFree else ctx
  | .closeNotify => if ctx.sending then ctx else ctx.doClose .done
  | .reset => ctx.resetLoop
  | .startSend => { ctx with startSendEvent := true }
  | .doFree => ctx.doFree

/-- `nm_dtls_event_do_one`, called by a function that goes on with `rest`. -/
def eventDoOne (ctx : DtlsClient) (env : CliEnv) (rest : CliFrame) : DtlsClient :=
  match ctx.state with
  | .connecting =>
    let ctx := ctx.mbedtls env.use
    match env.handshake with
    | .wantReadWrite => ctx.resume rest
    | .accessDenied =>
      eventHandler { ctx with state := .closing, timer := false } .accessDenied rest
    | .error => eventHandler { ctx with state := .closing, timer := false } .closed rest
    | .done => eventHandler { ctx with state := .data } .handshakeComplete rest
  | .data =>
    let ctx := ctx.mbedtls env.use
    match env.read with
    | .eof => resume { ctx with state := .closing } rest
    | .data _ => dataHandler { ctx with recvCount := ctx.recvCount + 1 } rest
    | .wantReadWrite => ctx.resume rest
    | .accessDenied => eventHandler { ctx with timer := false } .accessDenied rest
    | .error => doClose { ctx with state := .closing } rest
  | .closing => ctx.resume rest

/-- `nm_dtls_connect`. -/
def connect (ctx : DtlsClient) (env : CliEnv) : DtlsClient :=
  eventDoOne { ctx with state := .connecting, sending := false, events := [] } env .done

def handlePacket (ctx : DtlsClient) (env : CliEnv) : DtlsClient :=
  eventDoOne { ctx with receiving := true } env .handlePacket

/-- `nm_dtls_timed_event_do_one`. -/
def timedEventDoOne (ctx : DtlsClient) (env : CliEnv) : DtlsClient :=
  if ctx.state = .closing then ctx else ctx.eventDoOne env .done

/-- `nm_dtls_udp_send_callback`. -/
def udpSendCallback (ctx : DtlsClient) (env : CliEnv) : DtlsClient :=
  let ctx := { ctx with sending := false, sslSendBuffer := false }
  if ctx.state = .closing then ctx.doClose .udpSendCallback else ctx.eventDoOne env .done

def writeCode : WriteRet → NpErrorCode
  | .badInputData => .malformedPacket
  | .error => .unknown
  | .written => .ok

/-- `nm_mbedtls_cli_start_send_deferred`. -/
def startSendDeferred (ctx : DtlsClient) (ret : WriteRet) (use : MbedtlsUse) : DtlsClient :=
  if ctx.state = .closing then ctx
  else if ctx.sending then ctx
  else match ctx.sendList.waiting with
    | [] => ctx
    | next :: others =>
      let ctx := ctx.mbedtls use
      sendCb
        { ctx with
          written := ctx.written ++ [next.number]
          sentCount := if ret = .written then ctx.sentCount + 1 else ctx.sentCount }
        next others (writeCode ret) .startSend

def asyncSendData (ctx : DtlsClient) (sendCtx : ℕ) : DtlsClient :=
  if ctx.state = .closing then { ctx with sendList := ctx.sendList.refuse }
  else { ctx with sendList := ctx.sendList.accept sendCtx, startSendEvent := true }

/-- `dtls_cli_close`. The send function closes on its own if `sender` refuses the
close notify. -/
def close (ctx : DtlsClient) (record : RecordSend) : DtlsClient :=
  if ctx.state = .closing then ctx
  else
    let ctx := { ctx with state := .closing }
    if record = .refused ∧ ctx.sslSendBuffer = false then
      doClose { ctx with sending := false } .closeNotify
    else
      let ctx := ctx.mbedtlsSend record
      if ctx.sending then ctx else ctx.doClose .done

/-- `nm_mbedtls_cli_destroy`. -/
def destroy (ctx : DtlsClient) : DtlsClient :=
  let ctx := { ctx with state := .closing, destroyed := true }
  if !ctx.sending && !ctx.receiving then ctx.doFree else ctx

end DtlsClient

inductive DtlsClientEvent
  | packet (env : CliEnv)
  | timer (env : CliEnv)
  /-- `coalesced` more sends completed before the event queue ran the callback. -/
  | udpSent (coalesced : ℕ) (env : CliEnv)
  | startSend (ret : WriteRet) (use : MbedtlsUse)
  | connect (env : CliEnv)
  | reset
  | close (record : RecordSend)
  | send (sendCtx : ℕ)
  | destroy
  | ret
  deriving DecidableEq, Repr

/-- After the callback the module does not touch the context any more, or `receiving`
keeps it from being freed. -/
def CliFrame.outlives : CliFrame → Bool
  | .done | .handlePacket => true
  | _ => false

/-- The owner does not submit a context that is still queued, does not use the context
after it destroyed it, and does not destroy it where the module goes on with it. -/
def dtlsClientStep (ctx : DtlsClient) (e : DtlsClientEvent) : Option DtlsClient :=
  if ctx.freed then none
  else match e with
    | .packet env => if ctx.frames = [] then some (ctx.handlePacket env) else none
    | .timer env =>
      if ctx.frames = [] ∧ ctx.timer then
        some (DtlsClient.timedEventDoOne { ctx with timer := false } env)
      else none
    | .udpSent coalesced env =>
      if ctx.frames = [] ∧ coalesced < ctx.udpSends then
        some (DtlsClient.udpSendCallback
          { ctx with udpSends := ctx.udpSends - (coalesced + 1) } env)
      else none
    | .startSend ret use =>
      if ctx.frames = [] ∧ ctx.startSendEvent then
        some (DtlsClient.startSendDeferred { ctx with startSendEvent := false } ret use)
      else none
    | .connect env => if ctx.destroyed then none else some (ctx.connect env)
    | .reset => if ctx.destroyed then none else some ctx.resetLoop
    | .close record => if ctx.destroyed then none else some (ctx.close record)
    | .send sendCtx =>
      if ctx.sendList.waiting.any (·.item = sendCtx) then none else some (ctx.asyncSendData sendCtx)
    | .destroy => if !ctx.destroyed && ctx.frames.all (·.outlives) then some ctx.destroy else none
    | .ret =>
      match ctx.frames with
      | [] => none
      | rest :: frames => some (DtlsClient.resume { ctx with frames := frames } rest)

def dtlsClient : Machine DtlsClient DtlsClientEvent := ⟨DtlsClient.create, dtlsClientStep⟩

end NabtoDevice
