import NabtoDevice.Spec.KeepAlive

/-! The DTLS client context of `src/modules/mbedtls/nm_mbedtls_cli.c`, the part
that does not call back into its owner. What mbedtls does inside one call is an
answer of the environment: whether it hands a record to the send function, and
whether the retransmission timer is armed when it returns. -/

namespace NabtoDevice

inductive SslState
  | connecting
  | data
  | closing
  deriving DecidableEq, Repr

inductive CliSendContext
  | coap
  | keepAlive
  deriving DecidableEq, Repr

structure NpDtlsCli where
  state : SslState
  recvCount : UInt32
  sentCount : UInt32
  /-- `sslSendBufferSize` is not zero. -/
  sslSendBuffer : Bool
  sendList : List CliSendContext
  startSendEvent : Bool
  sending : Bool
  timer : Bool
  /-- Packets given to `sender` whose callback is still to come. -/
  udpSends : ℕ
  deriving DecidableEq, Repr

structure MbedtlsCall where
  sends : Bool
  timer : Bool
  deriving DecidableEq, Repr

inductive HandshakeRet
  | wantReadWrite
  | accessDenied
  | error
  | done
  deriving DecidableEq, Repr

inductive ReadRet
  | eof
  | data (buffer : List UInt8)
  | wantReadWrite
  | accessDenied
  | error
  deriving DecidableEq, Repr

inductive WriteRet
  | badInputData
  | error
  | written
  deriving DecidableEq, Repr

/-- The context as `calloc` leaves it. -/
def nmMbedtlsCliCreate : NpDtlsCli where
  state := .connecting
  recvCount := 0
  sentCount := 0
  sslSendBuffer := false
  sendList := []
  startSendEvent := false
  sending := false
  timer := false
  udpSends := 0

/-- `dtls_packet_sender`, the only sender, always returns OK. -/
def nmDtlsMbedtlsSend (ctx : NpDtlsCli) : NpDtlsCli :=
  if ctx.sslSendBuffer = false then
    { ctx with sending := true, sslSendBuffer := true, udpSends := ctx.udpSends + 1 }
  else ctx

def mbedtlsCall (ctx : NpDtlsCli) (call : MbedtlsCall) : NpDtlsCli :=
  { (if call.sends then nmDtlsMbedtlsSend ctx else ctx) with timer := call.timer }

def mbedtlsSslCloseNotify (ctx : NpDtlsCli) (sends : Bool) : NpDtlsCli :=
  if sends then nmDtlsMbedtlsSend ctx else ctx

/-- The first half of `nm_dtls_connect`, up to `nm_dtls_event_do_one`. -/
def nmDtlsConnect (ctx : NpDtlsCli) : NpDtlsCli :=
  { ctx with state := .connecting, sending := false }

def asyncSendData (ctx : NpDtlsCli) (sendCtx : CliSendContext) : NpDtlsCli :=
  if ctx.state = .closing then ctx
  else { ctx with sendList := ctx.sendList ++ [sendCtx], startSendEvent := true }

/-- The callbacks of the contexts still queued are the owner's part. -/
def nmMbedtlsCliReset (ctx : NpDtlsCli) : NpDtlsCli :=
  { ctx with sendList := [], sslSendBuffer := false, timer := false, startSendEvent := false }

end NabtoDevice
