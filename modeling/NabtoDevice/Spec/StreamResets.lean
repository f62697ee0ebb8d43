import NabtoDevice.Spec.Dtls
import NabtoDevice.Spec.StreamManager

/-! The reset packets of the stream manager (`nc_stream_manager_send_rst` of
`src/core/nc_stream_manager.c`) on the DTLS connections they are sent on. Of a connection of
`src/modules/mbedtls/nm_mbedtls_srv.c` its state and its send list are kept. All connections
share one buffer and one send context of the manager. The buffers are numbered as they are
allocated. -/

namespace NabtoDevice

/-- A queued `np_dtls_srv_send_context`. -/
inductive SrvSendCtx
  /-- `sendCtx` of the stream manager. -/
  | rst
  /-- That of a stream, of CoAP or of the keep alive. -/
  | other
  deriving DecidableEq, Repr

structure SrvSends where
  state : SslState
  sendList : List SrvSendCtx
  deriving DecidableEq, Repr

/-- `nm_mbedtls_srv_async_send_data`. -/
def SrvSends.asyncSendData (dtls : SrvSends) (sendCtx : SrvSendCtx) : NpErrorCode × SrvSends :=
  if dtls.state = .closing then (.connectionClosing, dtls)
  else (.ok, { dtls with sendList := dtls.sendList ++ [sendCtx] })

structure StreamResets where
  manager : NcStreamManager
  /-- The buffer `rstBuf` points to. -/
  buffer : Option ℕ
  allocated : ℕ
  /-- What `buf.free` was given. -/
  freed : List (Option ℕ)
  /-- The connections there are, by their address. -/
  dtls : ℕ → Option SrvSends

inductive StreamResetEvent
  | createConnection (conn : ℕ)
  /-- The handshake is over, or the connection closes. -/
  | setState (conn : ℕ) (state : SslState)
  /-- Another part of the core sends a packet on the connection. -/
  | send (conn : ℕ)
  /-- The first packet of the send list is written and its callback is invoked. -/
  | startSend (conn : ℕ)
  /-- A stream packet in a record that comes in on the connection. -/
  | packet (conn connectionRef : ℕ) (packet : StreamPacket)
  | destroyConnection (conn : ℕ) (answers : ℕ → List NabtoStreamNextEvent)
  | manager (event : StreamManagerEvent)

namespace StreamResets

def init (maxStreams : ℕ) : StreamResets where
  manager := ncStreamManagerInit maxStreams
  buffer := none
  allocated := 0
  freed := []
  dtls := fun _ => none

def setDtls (s : StreamResets) (conn : ℕ) (dtls : Option SrvSends) : StreamResets :=
  { s with dtls := Function.update s.dtls conn dtls }

/-- The rest of `nc_stream_manager_send_rst` when it has got a buffer. What
`async_send_data` returns is not looked at. -/
def sendRst (s : StreamResets) (conn : ℕ) (dtls : SrvSends) : StreamResets :=
  { s with buffer := some s.allocated, allocated := s.allocated + 1 }.setDtls conn
    (dtls.asyncSendData .rst).2

/-- `nc_stream_manager_send_rst_callback`. -/
def sendRstCallback (s : StreamResets) : StreamResets :=
  { s with
    manager := ncStreamManagerSendRstCallback s.manager
    buffer := none
    freed := s.freed ++ [s.buffer] }

def sendCb (s : StreamResets) : SrvSendCtx → StreamResets
  | .rst => s.sendRstCallback
  | .other => s

/-- `nc_stream_manager_handle_packet` on a connection. It has sent a reset if there is a
buffer now and there was none before. -/
def handlePacket (flags : NabtoStreamFlags) (s : StreamResets) (conn connectionRef : ℕ)
    (packet : StreamPacket) (dtls : SrvSends) : StreamResets :=
  let manager := ncStreamManagerHandlePacket flags s.manager conn connectionRef packet
  let sends := manager.rstBuf && !s.manager.rstBuf
  let s := { s with manager := manager }
  if sends then s.sendRst conn dtls else s

def step (flags : NabtoStreamFlags) (s : StreamResets) : StreamResetEvent → Option StreamResets
  | .createConnection conn =>
    match s.dtls conn with
    | none => some (s.setDtls conn (some ⟨.connecting, []⟩))
    | some _ => none
  | .setState conn state =>
    match s.dtls conn with
    | none => none
    | some dtls =>
      if dtls.state = .closing then none
      else some (s.setDtls conn (some { dtls with state := state }))
  | .send conn =>
    match s.dtls conn with
    | none => none
    | some dtls => some (s.setDtls conn (dtls.asyncSendData .other).2)
  | .startSend conn =>
    match s.dtls conn with
    | none => none
    | some dtls =>
      match dtls.sendList with
      | [] => none
      | next :: others =>
        some ((s.setDtls conn (some { dtls with sendList := others })).sendCb next)
  | .packet conn connectionRef packet =>
    match s.dtls conn with
    | none => none
    | some dtls =>
      -- `nm_mbedtls_srv_do_one` reads in `DATA` only, and what comes in another state is dropped
      if dtls.state = .data then some (s.handlePacket flags conn connectionRef packet dtls)
      else some s
  | .destroyConnection conn answers =>
    match s.dtls conn with
    | none => none
    | some dtls =>
      some (dtls.sendList.foldl sendCb
        ({ s with manager := ncStreamManagerRemoveConnection s.manager conn answers }.setDtls conn none))
  | .manager event =>
    match event with
    | .packet _ _ _ | .rstSent | .removeConnection _ _ => none
    | event =>
      (streamManagerStep flags s.manager event).map fun manager => { s with manager := manager }

end StreamResets

def streamResets (flags : NabtoStreamFlags) (maxStreams : ℕ) :
    Machine StreamResets StreamResetEvent :=
  ⟨StreamResets.init maxStreams, StreamResets.step flags⟩

end NabtoDevice
