import NabtoDevice.Spec.Platform
import NabtoDevice.Spec.Dtls
import NabtoDevice.Lib.Machine

/-! A client connection (`src/core/nc_client_connection.c`) with the DTLS server
connection below it (`src/modules/mbedtls/nm_mbedtls_srv.c`). What mbedtls does in
one call is an answer of the environment (`SrvEnv`): whether it hands a record to the
send function, and what it returns. `udpSends` holds the UDP sends that were submitted
with the connection's completion event and have not completed. -/

namespace NabtoDevice

def npDtlsSrvDefaultChannelId : UInt8 := 0xff
def nabtoProtocolPrefixRendezvous : UInt8 := 241
def ctRendezvousClientRequest : UInt8 := 0x01

inductive NpDtlsSrvEvent
  | closed
  | handshakeComplete
  deriving DecidableEq, Repr

/-- A queued `np_dtls_srv_send_context`: that of the keep alive or one of the streams and
CoAP, which only use the default channel. -/
structure NpDtlsSrvSendContext where
  keepAlive : Bool
  channelId : UInt8
  deriving DecidableEq, Repr

structure NpDtlsSrvConnection where
  state : SslState
  currentChannelId : UInt8
  recvCount : UInt32
  sentCount : UInt32
  sendList : List NpDtlsSrvSendContext
  startSendEvent : Bool
  deferredEvent : NpDtlsSrvEvent
  deferredEventEvent : Bool
  closeEv : Bool
  closeCb : Bool
  sending : Bool
  channelId : UInt8
  deriving DecidableEq, Repr

structure NcConnectionChannel where
  sock : ℕ
  ep : ℕ
  channelId : UInt8
  deriving DecidableEq, Repr

structure NcClientConnection where
  id : List UInt8
  currentChannel : NcConnectionChannel
  alternativeChannel : NcConnectionChannel
  currentMaxSequence : UInt64
  sentCb : Bool
  keepAlive : NcKeepAlive
  dtls : NpDtlsSrvConnection
  udpSends : List NcConnectionChannel
  /-- The connection was destroyed and its memory cleared. -/
  destroyed : Bool
  deriving DecidableEq, Repr

inductive SrvHandshakeRet
  | wantReadWrite
  | timeout
  | done
  | error
  deriving DecidableEq, Repr

inductive SrvReadRet
  | eof
  | data (sequence : UInt64) (buffer : List UInt8)
  | wantReadWrite
  | closeNotify
  | error
  deriving DecidableEq, Repr

structure SrvEnv where
  sends : Bool := false
  handshake : SrvHandshakeRet := .wantReadWrite
  read : SrvReadRet := .wantReadWrite
  write : WriteRet := .written
  alpn : Bool := true
  deriving DecidableEq, Repr

def nmMbedtlsSrvCreateConnection : NpDtlsSrvConnection where
  state := .connecting
  currentChannelId := 0
  recvCount := 0
  sentCount := 0
  sendList := []
  startSendEvent := false
  deferredEvent := .closed
  deferredEventEvent := false
  closeEv := false
  closeCb := false
  sending := false
  channelId := npDtlsSrvDefaultChannelId

/-- Where a send on `channel` goes, if anywhere. -/
def NcClientConnection.channelFor (conn : NcClientConnection) (channel : UInt8) :
    Option NcConnectionChannel :=
  if channel = conn.currentChannel.channelId ∨ channel = npDtlsSrvDefaultChannelId then
    some conn.currentChannel
  else if channel = conn.alternativeChannel.channelId then some conn.alternativeChannel
  else none

def ncClientConnectionAsyncSendToUdp (conn : NcClientConnection) (channel : UInt8) :
    NpErrorCode × NcClientConnection :=
  if conn.sentCb then (.operationInProgress, conn)
  else (.ok, { conn with
    sentCb := true, udpSends := conn.udpSends ++ (conn.channelFor channel).toList })

/-- `nm_mbedtls_srv_mbedtls_send`. -/
def nmMbedtlsSrvMbedtlsSend (conn : NcClientConnection) : NcClientConnection :=
  if conn.dtls.sending then conn
  else
    let (ec, conn) := ncClientConnectionAsyncSendToUdp
      { conn with dtls := { conn.dtls with sending := true } } conn.dtls.channelId
    if ec = .ok then conn else { conn with dtls := { conn.dtls with sending := false } }

/-- The sends of one call into mbedtls; all but the first are refused. -/
def mbedtlsSends (conn : NcClientConnection) (env : SrvEnv) : NcClientConnection :=
  if env.sends then nmMbedtlsSrvMbedtlsSend conn else conn

def nmMbedtlsSrvAsyncSendData (conn : NcClientConnection) (sendCtx : NpDtlsSrvSendContext) :
    NcClientConnection :=
  if conn.dtls.state = .closing then conn
  else { conn with dtls := { conn.dtls with
    sendList := conn.dtls.sendList ++ [sendCtx], startSendEvent := true } }

def ncClientConnectionKeepAliveSendResponse (conn : NcClientConnection) (channelId : UInt8)
    (buffer : List UInt8) : NcClientConnection :=
  match ncKeepAliveHandleRequest conn.keepAlive buffer with
  | none => conn
  | some keepAlive =>
    nmMbedtlsSrvAsyncSendData { conn with keepAlive := keepAlive } ⟨true, channelId⟩

def ncClientConnectionHandleKeepAlive (conn : NcClientConnection) (channelId : UInt8)
    (buffer : List UInt8) : NcClientConnection :=
  if buffer[1]? = some ctKeepAliveRequest then
    ncClientConnectionKeepAliveSendResponse conn channelId buffer
  else conn

/-- `nc_client_connection_handle_data`; what streams and CoAP do with their packets comes
back as sends on the default channel. -/
def ncClientConnectionHandleData (conn : NcClientConnection) (channelId : UInt8) (sequence : UInt64)
    (buffer : List UInt8) : NcClientConnection :=
  if buffer.head? = some atKeepAlive then ncClientConnectionHandleKeepAlive conn channelId buffer
  else if sequence > conn.currentMaxSequence then
    let conn := { conn with currentMaxSequence := sequence }
    if conn.currentChannel.channelId ≠ channelId ∧
      conn.alternativeChannel.channelId = channelId then
      { conn with currentChannel := conn.alternativeChannel }
    else conn
  else conn

def NcClientConnection.setState (conn : NcClientConnection) (state : SslState) :
    NcClientConnection :=
  { conn with dtls := { conn.dtls with state := state } }

def deferredEventCallback (conn : NcClientConnection) (event : NpDtlsSrvEvent) :
    NcClientConnection :=
  { conn with dtls := { conn.dtls with deferredEvent := event, deferredEventEvent := true } }

def nmMbedtlsSrvDoOne (conn : NcClientConnection) (env : SrvEnv) : NcClientConnection :=
  match conn.dtls.state with
  | .connecting =>
    let conn := mbedtlsSends conn env
    match env.handshake with
    | .wantReadWrite => conn
    | .done => deferredEventCallback (conn.setState .data) .handshakeComplete
    | .timeout | .error => deferredEventCallback (conn.setState .closing) .closed
  | .data =>
    let conn := mbedtlsSends conn env
    match env.read with
    | .eof => conn.setState .closing
    | .data sequence buffer =>
      ncClientConnectionHandleData
        { conn with dtls := { conn.dtls with recvCount := conn.dtls.recvCount + 1 } }
        conn.dtls.currentChannelId sequence buffer
    | .wantReadWrite => conn
    | .closeNotify | .error => deferredEventCallback (conn.setState .closing) .closed
  | .closing => conn

def nmMbedtlsSrvHandlePacket (conn : NcClientConnection) (channelId : UInt8) (env : SrvEnv) :
    NcClientConnection :=
  let conn := nmMbedtlsSrvDoOne { conn with
    dtls := { conn.dtls with currentChannelId := channelId, channelId := channelId } } env
  { conn with dtls := { conn.dtls with channelId := npDtlsSrvDefaultChannelId } }

/-- `nc_client_connection_open` for a packet whose first 16 bytes are `id`. -/
def ncClientConnectionOpen (id : List UInt8) (sock ep : ℕ) (env : SrvEnv) : NcClientConnection :=
  let channel : NcConnectionChannel := ⟨sock, ep, id.getD 15 0⟩
  nmMbedtlsSrvHandlePacket
    { id := id, currentChannel := channel, alternativeChannel := channel, currentMaxSequence := 0
      sentCb := false, keepAlive := ncKeepAliveInit, dtls := nmMbedtlsSrvCreateConnection
      udpSends := [], destroyed := false } channel.channelId env

/-- The channels after a packet came on `channelId`. -/
def NcClientConnection.seenOn (conn : NcClientConnection) (channelId : UInt8) (sock ep : ℕ) :
    NcClientConnection :=
  if channelId ≠ conn.currentChannel.channelId then
    { conn with alternativeChannel := ⟨sock, ep, channelId⟩ }
  else { conn with currentChannel := { conn.currentChannel with sock := sock, ep := ep } }

/-- `nc_client_connection_handle_packet` for a packet that holds a whole connection id. A
rendezvous request is answered elsewhere. -/
def ncClientConnectionHandlePacket (conn : NcClientConnection) (sock ep : ℕ) (buffer : List UInt8)
    (env : SrvEnv) : NcClientConnection :=
  if buffer[0]? = some nabtoProtocolPrefixRendezvous ∧
    buffer[16]? = some ctRendezvousClientRequest then
    conn
  else
    let channelId := buffer.getD 15 0
    nmMbedtlsSrvHandlePacket (conn.seenOn channelId sock ep) channelId env

def nmMbedtlsSrvConnectionSendCallback (conn : NcClientConnection) (ok : Bool) (env : SrvEnv) :
    NcClientConnection :=
  let conn := { conn with dtls := { conn.dtls with sending := false } }
  if !ok then conn
  else if conn.dtls.state = .closing then conn
  else
    let conn := nmMbedtlsSrvDoOne conn env
    { conn with dtls := { conn.dtls with startSendEvent := true } }

def ncClientConnectionSendToUdpCb (conn : NcClientConnection) (ok : Bool) (env : SrvEnv) :
    NcClientConnection :=
  if !conn.sentCb then conn
  else nmMbedtlsSrvConnectionSendCallback { conn with sentCb := false } ok env

/-- `nm_mbedtls_srv_start_send_deferred` up to `mbedtls_ssl_write`. -/
def NcClientConnection.takeSend (conn : NcClientConnection) (next : NpDtlsSrvSendContext)
    (rest : List NpDtlsSrvSendContext) : NcClientConnection :=
  { conn with dtls := { conn.dtls with sendList := rest, channelId := next.channelId } }

/-- The rest of it, with the callback of `next`. -/
def NcClientConnection.sendTaken (conn : NcClientConnection) (next : NpDtlsSrvSendContext)
    (env : SrvEnv) : NcClientConnection :=
  { conn with
    dtls := { conn.dtls with
      channelId := npDtlsSrvDefaultChannelId
      sentCount := if env.write = .written then conn.dtls.sentCount + 1 else conn.dtls.sentCount }
    keepAlive := if next.keepAlive then ncKeepAlivePacketSent conn.keepAlive else conn.keepAlive }

def nmMbedtlsSrvStartSendDeferred (conn : NcClientConnection) (env : SrvEnv) : NcClientConnection :=
  if conn.dtls.sending then conn
  else match conn.dtls.sendList with
    | [] => conn
    | next :: rest => (mbedtlsSends (conn.takeSend next rest) env).sendTaken next env

def nmMbedtlsSrvAsyncClose (conn : NcClientConnection) (env : SrvEnv) : NcClientConnection :=
  if conn.dtls.state = .closing then conn
  else
    let conn := mbedtlsSends (conn.setState .closing) env
    { conn with dtls := { conn.dtls with closeCb := true, closeEv := true } }

/-- `nc_client_connection_destroy_connection`; the streams and the dispatcher are told
elsewhere. -/
def ncClientConnectionDestroyConnection (conn : NcClientConnection) : NcClientConnection :=
  { conn with sentCb := false, destroyed := true }

def ncClientConnectionHandleEvent (conn : NcClientConnection) (event : NpDtlsSrvEvent)
    (env : SrvEnv) : NcClientConnection :=
  match event with
  | .closed => ncClientConnectionDestroyConnection conn
  | .handshakeComplete =>
    if env.alpn then { conn with keepAlive := ncKeepAliveWait conn.keepAlive }
    else nmMbedtlsSrvAsyncClose conn env

/-- `nm_mbedtls_srv_do_event_callback`. -/
def nmMbedtlsSrvDoEventCallback (conn : NcClientConnection) (env : SrvEnv) : NcClientConnection :=
  if conn.dtls.state = .closing ∧ conn.dtls.sending then conn
  else ncClientConnectionHandleEvent
    { conn with dtls := { conn.dtls with deferredEventEvent := false } } conn.dtls.deferredEvent env

def nmMbedtlsSrvEventClose (conn : NcClientConnection) : NcClientConnection :=
  if conn.dtls.sending then conn
  else
    let closeCb := conn.dtls.closeCb
    let conn := { conn with dtls := { conn.dtls with
      closeEv := false, startSendEvent := false, deferredEventEvent := false, closeCb := false } }
    if closeCb then ncClientConnectionDestroyConnection conn else conn

def ncClientConnectionKeepAliveSendReq (conn : NcClientConnection) : NcClientConnection :=
  nmMbedtlsSrvAsyncSendData
    { conn with keepAlive := ncKeepAliveCreateRequest conn.keepAlive }
    ⟨true, conn.currentChannel.channelId⟩

def ncClientConnectionKeepAliveEvent (conn : NcClientConnection) (env : SrvEnv) :
    NcClientConnection :=
  let (keepAlive, action) :=
    ncKeepAliveShouldSend conn.keepAlive conn.dtls.recvCount conn.dtls.sentCount
  let conn := { conn with keepAlive := { keepAlive with armed := false } }
  match action with
  | .doNothing => { conn with keepAlive := ncKeepAliveWait conn.keepAlive }
  | .sendKa =>
    let conn := ncClientConnectionKeepAliveSendReq conn
    { conn with keepAlive := ncKeepAliveWait conn.keepAlive }
  | .kaTimeout => nmMbedtlsSrvAsyncClose conn env

/-- The event queue takes `startSendEvent` from its list before it runs it. -/
def NcClientConnection.startSendFired (conn : NcClientConnection) : NcClientConnection :=
  { conn with dtls := { conn.dtls with startSendEvent := false } }

inductive ClientConnectionEvent
  | packet (sock ep : ℕ) (buffer : List UInt8) (env : SrvEnv)
  | timer (env : SrvEnv)
  | startSend (env : SrvEnv)
  | deferredEvent (env : SrvEnv)
  | closeEvent
  | close (env : SrvEnv)
  | keepAliveEvent (env : SrvEnv)
  | sendData
  | udpDone (ok : Bool) (env : SrvEnv)
  deriving DecidableEq, Repr

def clientConnectionStep (conn : NcClientConnection) (e : ClientConnectionEvent) :
    Option NcClientConnection :=
  if conn.destroyed then none
  else match e with
    | .packet sock ep buffer env =>
      if buffer.length < 16 then none
      else some (ncClientConnectionHandlePacket conn sock ep buffer env)
    | .timer env => some (nmMbedtlsSrvDoOne conn env)
    | .startSend env =>
      if conn.dtls.startSendEvent then
        some (nmMbedtlsSrvStartSendDeferred conn.startSendFired env)
      else none
    | .deferredEvent env =>
      if conn.dtls.deferredEventEvent then some (nmMbedtlsSrvDoEventCallback conn env) else none
    | .closeEvent => if conn.dtls.closeEv then some (nmMbedtlsSrvEventClose conn) else none
    | .close env => some (nmMbedtlsSrvAsyncClose conn env)
    | .keepAliveEvent env =>
      if conn.keepAlive.armed then some (ncClientConnectionKeepAliveEvent conn env) else none
    | .sendData => some (nmMbedtlsSrvAsyncSendData conn ⟨false, npDtlsSrvDefaultChannelId⟩)
    | .udpDone ok env =>
      match conn.udpSends with
      | [] => none
      | _ :: rest => some (ncClientConnectionSendToUdpCb { conn with udpSends := rest } ok env)

/-- `nm_mbedtls_srv_start_send_deferred` takes the first send context from the list. -/
def takesSend (conn : NcClientConnection) : ClientConnectionEvent → Bool
  | .startSend _ => !conn.dtls.sending && !conn.dtls.sendList.isEmpty
  | _ => false

/-- The connection opened by the packet that starts with `id`. -/
def clientConnection (id : List UInt8) (sock ep : ℕ) (env : SrvEnv) :
    Machine NcClientConnection ClientConnectionEvent :=
  ⟨ncClientConnectionOpen id sock ep env, clientConnectionStep⟩

end NabtoDevice
