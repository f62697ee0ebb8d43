import NabtoDevice.Spec.ClientConnection
import NabtoDevice.Lib.ByteOrder

/-! A client connection with the DTLS records it receives. `nm_mbedtls_srv_do_one` loads the
record number as an integer of the host (`*((uint64_t*)ctx->ssl.in_ctr)`). A record that
mbedtls keeps of a datagram is read with a later packet, timer or UDP completion, so the
channel it came on is told apart from the one the module passes on. -/

namespace NabtoDevice

/-- A record of the connection: the eight bytes of `in_ctr`, epoch and sequence number, and
the channel of the datagram that brought it. -/
structure DtlsRecord where
  inCtr : List UInt8
  channel : UInt8
  size : inCtr.length = 8
  deriving DecidableEq

/-- The record number, which is sent with the most significant byte first. -/
def DtlsRecord.number (record : DtlsRecord) : ℕ := ByteOrder.big.load record.inCtr

/-- The sequence that a host passes to `nc_client_connection_handle_data`. -/
def DtlsRecord.sequence (order : ByteOrder) (record : DtlsRecord) : UInt64 :=
  UInt64.ofNat (order.load record.inCtr)

/-- A record that is read has this sequence. -/
def SrvEnv.withSequence (env : SrvEnv) (sequence : UInt64) : SrvEnv :=
  match env.read with
  | .data _ buffer => { env with read := .data sequence buffer }
  | _ => env

def ClientConnectionEvent.withSequence (sequence : UInt64) :
    ClientConnectionEvent → ClientConnectionEvent
  | .packet sock ep buffer env => .packet sock ep buffer (env.withSequence sequence)
  | .timer env => .timer (env.withSequence sequence)
  | .udpDone ok env => .udpDone ok (env.withSequence sequence)
  | e => e

/-- `mbedtls_ssl_read` returns application data other than a keep alive. -/
def SrvEnv.readsData (env : SrvEnv) (state : SslState) : Bool :=
  state = .data && match env.read with
    | .data _ buffer => buffer.head? ≠ some atKeepAlive
    | _ => false

/-- A rendezvous request, which is not for DTLS. -/
def bearsRendezvousRequest (buffer : List UInt8) : Bool :=
  buffer[0]? = some nabtoProtocolPrefixRendezvous && buffer[16]? = some ctRendezvousClientRequest

/-- The event hands a record other than a keep alive to `nc_client_connection_handle_data`. -/
def deliversRecord (conn : NcClientConnection) : ClientConnectionEvent → Bool
  | .packet _ _ buffer env => !bearsRendezvousRequest buffer && env.readsData conn.dtls.state
  | .timer env => env.readsData conn.dtls.state
  | .udpDone ok env => conn.sentCb && ok && env.readsData conn.dtls.state
  | _ => false

/-- The connection as `nm_mbedtls_srv_do_one` finds it. -/
def heardBy (conn : NcClientConnection) : ClientConnectionEvent → NcClientConnection
  | .packet sock ep buffer _ =>
    if bearsRendezvousRequest buffer then conn
    else
      let conn := conn.seenOn (buffer.getD 15 0) sock ep
      { conn with dtls := { conn.dtls with currentChannelId := buffer.getD 15 0 } }
  | _ => conn

structure RoamingConnection where
  conn : NcClientConnection
  /-- The records received so far, keep alives apart. -/
  records : List DtlsRecord
  deriving DecidableEq

/-- The event comes with the record that mbedtls reads in it, if it reads one. -/
def roamingConnectionStep (order : ByteOrder) (c : RoamingConnection)
    (e : ClientConnectionEvent × DtlsRecord) : Option RoamingConnection :=
  (clientConnectionStep c.conn (e.1.withSequence (e.2.sequence order))).map fun conn =>
    ⟨conn, if deliversRecord c.conn e.1 then c.records ++ [e.2] else c.records⟩

def roamingConnection (order : ByteOrder) (id : List UInt8) (sock ep : ℕ) (env : SrvEnv) :
    Machine RoamingConnection (ClientConnectionEvent × DtlsRecord) :=
  ⟨⟨ncClientConnectionOpen id sock ep env, []⟩, roamingConnectionStep order⟩

end NabtoDevice
