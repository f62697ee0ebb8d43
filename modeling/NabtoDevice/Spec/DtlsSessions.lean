import NabtoDevice.Spec.DtlsClient

/-! The UDP sends of a DTLS client context across its connections
(`src/modules/mbedtls/nm_mbedtls_cli.c`). Each call of `nm_dtls_connect` starts a connection,
and a send belongs to the connection that gave it to `sender`. The sends complete in any order.
Completions that come before the event queue runs the callback are one call of it, since the
owner passes the same completion event to every send (`dtls_packet_sender` of `nc_attacher.c`). -/

namespace NabtoDevice

namespace DtlsClient

/-- The first record that the step makes mbedtls hand to `nm_dtls_mbedtls_send`. -/
def handed (ctx : DtlsClient) : DtlsClientEvent → RecordSend
  | .packet env | .timer env | .udpSent _ env => if ctx.state =
    .closing then .none else env.use.record
  | .connect env => env.use.record
  | .startSend _ use =>
    if ctx.state = .closing ∨ ctx.sending = true ∨ ctx.sendList.waiting = [] then .none
    else use.record
  | .close record => if ctx.state = .closing then .none else record
  | .reset | .send _ | .destroy | .ret => .none

/-- `sslSendBufferSize` is not zero when the record is handed over. -/
def full (ctx : DtlsClient) : DtlsClientEvent → Bool
  | .udpSent _ _ => false
  | _ => ctx.sslSendBuffer

/-- A record is copied to `sslSendBuffer`, also if `sender` refuses it then. -/
def copies (ctx : DtlsClient) (e : DtlsClientEvent) : Bool := !ctx.full e && ctx.handed e ≠ .none

end DtlsClient

structure DtlsSessions where
  client : DtlsClient
  /-- The number of connections so far. -/
  session : ℕ
  /-- The connection of each send that has not completed. -/
  pending : List ℕ
  /-- `sslSendBuffer` was written while a send had not completed. -/
  overwritten : Bool
  /-- A send of an earlier connection completed and the module took one of a later connection
  for completed. -/
  mistaken : Bool
  deriving DecidableEq, Repr

inductive DtlsSessionsEvent
  /-- Any event of the context but the completion of a send. -/
  | call (e : DtlsClientEvent)
  /-- The sends of `left` are those that have not completed. -/
  | completed (left : List ℕ) (env : CliEnv)
  deriving DecidableEq, Repr

namespace DtlsSessions

def create : DtlsSessions := ⟨.create, 0, [], false, false⟩

def seen (t : DtlsSessions) : DtlsSessionsEvent → DtlsClientEvent
  | .call e => e
  | .completed left env => .udpSent (t.pending.length - left.length - 1) env

/-- The sends that have not completed when the context sees the event. -/
def left (t : DtlsSessions) : DtlsSessionsEvent → List ℕ
  | .call _ => t.pending
  | .completed left _ => left

def enabled (t : DtlsSessions) : DtlsSessionsEvent → Bool
  | .call (.udpSent _ _) => false
  | .call _ => true
  | .completed left _ => left.isSublist t.pending && left.length < t.pending.length

def sessionAfter (t : DtlsSessions) : DtlsSessionsEvent → ℕ
  | .call (.connect _) => t.session + 1
  | _ => t.session

/-- The callback clears the bookkeeping of a send that has not completed. -/
def mistakes (t : DtlsSessions) : DtlsSessionsEvent → Bool
  | .call _ => false
  | .completed left _ =>
    (t.pending.diff left).any fun earlier => left.any fun later => earlier < later

def after (t : DtlsSessions) (e : DtlsSessionsEvent) (client : DtlsClient) : DtlsSessions where
  client := client
  session := t.sessionAfter e
  pending := t.left e ++ List.replicate (client.udpSends - (t.left e).length) (t.sessionAfter e)
  overwritten := t.overwritten || (t.client.copies (t.seen e) && t.left e ≠ [])
  mistaken := t.mistaken || t.mistakes e

end DtlsSessions

def dtlsSessionsStep (t : DtlsSessions) (e : DtlsSessionsEvent) : Option DtlsSessions :=
  if t.enabled e then (dtlsClientStep t.client (t.seen e)).map (t.after e) else none

def dtlsSessions : Machine DtlsSessions DtlsSessionsEvent := ⟨.create, dtlsSessionsStep⟩

end NabtoDevice
