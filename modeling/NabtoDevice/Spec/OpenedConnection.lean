import NabtoDevice.Spec.ClientConnection

/-! A client connection with all that can bring an event to it: its entry in the dispatcher
(`src/core/nc_client_connection_dispatch.c`), the timer of mbedtls, and the events of the
queue, which are flags of the connection. Nothing here looks at `destroyed`: an event that
came to a destroyed connection would be handled, and counted. -/

namespace NabtoDevice

structure OpenedConnection where
  conn : NcClientConnection
  /-- The dispatcher gives packets and close calls to active entries only. -/
  active : Bool
  timer : Bool
  /-- Deliveries of `NP_DTLS_SRV_EVENT_CLOSED`. -/
  closedEvents : ℕ
  /-- Invocations of the callback of `async_close`. -/
  closeCbs : ℕ
  /-- Runs of `nc_client_connection_destroy_connection`. -/
  destroys : ℕ
  deriving DecidableEq, Repr

/-- `nm_mbedtls_srv_do_event_callback` calls the event handler with `CLOSED`. -/
def deliversClosed (conn : NcClientConnection) : ClientConnectionEvent → Bool
  | .deferredEvent _ =>
    !(conn.dtls.state = .closing && conn.dtls.sending) && conn.dtls.deferredEvent = .closed
  | _ => false

/-- `nm_mbedtls_srv_event_close` calls the callback of `async_close`. -/
def callsCloseCb (conn : NcClientConnection) : ClientConnectionEvent → Bool
  | .closeEvent => !conn.dtls.sending && conn.dtls.closeCb
  | _ => false

namespace OpenedConnection

/-- The event can come to the connection, apart from the events of the queue. -/
def reaches (c : OpenedConnection) : ClientConnectionEvent → Bool
  | .packet _ _ _ _ | .close _ | .sendData => c.active
  | .timer _ => c.timer
  | .startSend _ | .deferredEvent _ | .closeEvent | .keepAliveEvent _ | .udpDone _ _ => true

/-- What `nc_client_connection_destroy_connection` does to `conn` after it has told the
owners of the connection: the keep alive is deinitialised, the dispatcher frees the entry and
the DTLS module destroys its timer and its events. A UDP send is not cancelled. -/
def destroyConnection (c : OpenedConnection) (conn : NcClientConnection) : OpenedConnection :=
  { c with
    conn := { conn with
      keepAlive := { conn.keepAlive with armed := false }
      dtls := { conn.dtls with
        startSendEvent := false, deferredEventEvent := false, closeEv := false } }
    active := false
    timer := false
    destroys := c.destroys + 1 }

end OpenedConnection

/-- The second component of an event says whether mbedtls leaves its timer running. -/
def openedConnectionStep (c : OpenedConnection) (e : ClientConnectionEvent × Bool) :
    Option OpenedConnection :=
  if c.reaches e.1 then
    (clientConnectionStep { c.conn with destroyed := false } e.1).map fun conn =>
      let c := { c with
        closedEvents := c.closedEvents + (deliversClosed c.conn e.1).toNat
        closeCbs := c.closeCbs + (callsCloseCb c.conn e.1).toNat }
      if conn.destroyed then c.destroyConnection conn else { c with conn := conn, timer := e.2 }
  else none

/-- The connection opened by the packet that starts with `id`. -/
def openedConnection (id : List UInt8) (sock ep : ℕ) (env : SrvEnv) (timer : Bool) :
    Machine OpenedConnection (ClientConnectionEvent × Bool) where
  init :=
    { conn := ncClientConnectionOpen id sock ep env
      active := true, timer := timer, closedEvents := 0, closeCbs := 0, destroys := 0 }
  step := openedConnectionStep

end NabtoDevice
