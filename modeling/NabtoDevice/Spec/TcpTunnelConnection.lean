import NabtoDevice.Lib.Machine
import NabtoDevice.Spec.DnsMultiResolver

/-! A connection of `src/modules/tcp_tunnel/nm_tcp_tunnel_connection.c`, which forwards data
between a stream and a TCP socket. An operation on the socket gets its result first, which is
posted as a completion event, and the callback runs later; the streams call back at once. What
the socket and the stream read, and how much of a buffer they take, comes with the events. The
operations that have been started and whose callback has not run are part of the state, and so
are the bytes that went through. -/

namespace NabtoDevice

def nmTcpTunnelBufferSize : ℕ := 8192

inductive TunnelStreamCall
  | read
  | write
  | close
  deriving DecidableEq, Repr

structure NmTcpTunnelConnection where
  /-- The service in whose `connections` list the connection is. -/
  service : Option ℕ := none
  stream : Option ℕ := none
  address : NpIpAddress := .v4 []
  port : UInt16 := 0
  tcpRecvBuffer : List UInt8 := []
  readLength : ℕ := 0
  streamRecvBuffer : List UInt8 := []
  streamReadSize : ℕ := 0
  tcpReadEnded : Bool := false
  streamReadEnded : Bool := false
  /-- The operations on the socket, each with its result once the completion event is posted. -/
  connects : List (Option NpErrorCode) := []
  tcpReads : List (Option NpErrorCode) := []
  tcpWrites : List (Option NpErrorCode) := []
  /-- Where in `streamRecvBuffer` the socket writes from, and how much is left. -/
  tcpWriteAt : ℕ := 0
  tcpWriteLeft : ℕ := 0
  streamReads : ℕ := 0
  streamWrites : ℕ := 0
  /-- Where in `tcpRecvBuffer` the stream writes from, and how much is left. -/
  streamWriteAt : ℕ := 0
  streamWriteLeft : ℕ := 0
  streamCloses : ℕ := 0
  tcpAborted : Bool := false
  /-- The sides that were told that no more data comes. -/
  tcpShutdown : Bool := false
  streamCloseCalled : Bool := false
  tcpBytesRead : List UInt8 := []
  tcpBytesWritten : List UInt8 := []
  streamBytesRead : List UInt8 := []
  streamBytesWritten : List UInt8 := []
  releasedStreams : List ℕ := []
  frees : ℕ := 0
  /-- The stream operations called with the stream NULL, which ends the process. -/
  nullCalls : List TunnelStreamCall := []
  deriving DecidableEq, Repr

namespace NmTcpTunnelConnection

def free (c : NmTcpTunnelConnection) : NmTcpTunnelConnection :=
  { c with frees := c.frees + 1, releasedStreams := c.releasedStreams ++ c.stream.toList }

def theEnd (c : NmTcpTunnelConnection) : NmTcpTunnelConnection := { c with service := none }.free

def isEnded (c : NmTcpTunnelConnection) : NmTcpTunnelConnection :=
  if c.tcpReadEnded && c.streamReadEnded then c.theEnd else c

/-- `np_tcp_abort` on the operations of one kind: those without a result get one. -/
def npTcpAbort (aborted : Bool) (ops : List (Option NpErrorCode)) : List (Option NpErrorCode) :=
  if aborted then ops else ops.map fun ec => some (ec.getD .aborted)

def abortConnection (c : NmTcpTunnelConnection) : NmTcpTunnelConnection :=
  { c with
    connects := npTcpAbort c.tcpAborted c.connects
    tcpReads := npTcpAbort c.tcpAborted c.tcpReads
    tcpWrites := npTcpAbort c.tcpAborted c.tcpWrites
    tcpAborted := true
    releasedStreams := c.releasedStreams ++ c.stream.toList
    stream := none }

/-! ### From the socket to the stream -/

def startTcpRead (c : NmTcpTunnelConnection) : NmTcpTunnelConnection :=
  { c with tcpReads := c.tcpReads ++ [none] }

def startStreamWrite (c : NmTcpTunnelConnection) (transferred : ℕ) : NmTcpTunnelConnection :=
  match c.stream with
  | some _ =>
    { c with
      streamWrites := c.streamWrites + 1, streamWriteAt := 0, streamWriteLeft := transferred }
  | none => { c with nullCalls := c.nullCalls ++ [.write] }

def closeStream (c : NmTcpTunnelConnection) : NmTcpTunnelConnection :=
  match c.stream with
  | some _ => { c with streamCloses := c.streamCloses + 1, streamCloseCalled := true }
  | none => { c with tcpReadEnded := true }.isEnded

def streamClosed (c : NmTcpTunnelConnection) : NmTcpTunnelConnection :=
  { c with tcpReadEnded := true }.isEnded

/-- An error of the socket is not followed by `is_ended`. -/
def tcpReaden (c : NmTcpTunnelConnection) (ec : NpErrorCode) : NmTcpTunnelConnection :=
  if c.readLength = 0 ∨ ec = .eof then c.closeStream
  else if ec ≠ .ok then { c with tcpReadEnded := true }.abortConnection
  else c.startStreamWrite c.readLength

def streamWritten (c : NmTcpTunnelConnection) (ec : NpErrorCode) : NmTcpTunnelConnection :=
  if ec ≠ .ok then { c with tcpReadEnded := true }.abortConnection.isEnded else c.startTcpRead

/-! ### From the stream to the socket -/

def startStreamRead (c : NmTcpTunnelConnection) : NmTcpTunnelConnection :=
  match c.stream with
  | some _ => { c with streamReads := c.streamReads + 1, streamReadSize := 0 }
  | none => { c with nullCalls := c.nullCalls ++ [.read] }

def startTcpWrite (c : NmTcpTunnelConnection) (transferred : ℕ) : NmTcpTunnelConnection :=
  { c with tcpWrites := c.tcpWrites ++ [none], tcpWriteAt := 0, tcpWriteLeft := transferred }

def closeTcp (c : NmTcpTunnelConnection) : NmTcpTunnelConnection :=
  { c with tcpShutdown := true, streamReadEnded := true }.isEnded

def streamReaden (c : NmTcpTunnelConnection) (ec : NpErrorCode) : NmTcpTunnelConnection :=
  if c.streamReadSize = 0 ∨ ec = .eof then c.closeTcp
  else if ec ≠ .ok then { c with streamReadEnded := true }.abortConnection.isEnded
  else c.startTcpWrite c.streamReadSize

def tcpWritten (c : NmTcpTunnelConnection) (ec : NpErrorCode) : NmTcpTunnelConnection :=
  if ec ≠ .ok then { c with streamReadEnded := true }.abortConnection.isEnded else c.startStreamRead

/-! ### The connection -/

def connected (c : NmTcpTunnelConnection) : NmTcpTunnelConnection := c.startTcpRead.startStreamRead

def connectCallback (c : NmTcpTunnelConnection) (ec : NpErrorCode) : NmTcpTunnelConnection :=
  if ec ≠ .ok then c.theEnd else c.connected

def startConnect (c : NmTcpTunnelConnection) : NmTcpTunnelConnection :=
  { c with connects := c.connects ++ [none] }

/-- `nm_tcp_tunnel_connection_start`; the stream is accepted as well. -/
def start (c : NmTcpTunnelConnection) : NmTcpTunnelConnection := c.startConnect

/-- The service has taken the connection out of its list. -/
def stopFromManager (c : NmTcpTunnelConnection) : NmTcpTunnelConnection := c.abortConnection

/-- What a read stores at the front of a receive buffer. -/
def store (buffer data : List UInt8) : List UInt8 := data ++ buffer.drop data.length

end NmTcpTunnelConnection

/-- What happens to a connection: the socket has a result for an operation or takes bytes from the
buffer, a completion event runs, the stream takes or stores bytes and calls back, the service
stops the connection. -/
inductive TunnelConnectionEvent
  | connectResult (ec : NpErrorCode)
  | connectCallback
  | tcpReceived (data : List UInt8)
  | tcpReadFailed (ec : NpErrorCode)
  | tcpReaden
  | tcpSent (n : ℕ)
  | tcpWriteFailed (ec : NpErrorCode)
  | tcpWritten
  | streamReceived (data : List UInt8)
  | streamReadFailed (ec : NpErrorCode)
  | streamTaken (n : ℕ)
  | streamWriteFailed (ec : NpErrorCode)
  | streamClosed (ec : NpErrorCode)
  | stop
  deriving DecidableEq, Repr

open NmTcpTunnelConnection in
def tunnelConnectionStep (c : NmTcpTunnelConnection) (e : TunnelConnectionEvent) :
    Option NmTcpTunnelConnection :=
  if c.nullCalls ≠ [] then none
  else match e with
    | .connectResult ec =>
      match c.connects with
      | none :: rest => some { c with connects := some ec :: rest }
      | _ => none
    | .connectCallback =>
      match c.connects with
      | some ec :: rest => some ({ c with connects := rest }.connectCallback ec)
      | _ => none
    | .tcpReceived data =>
      match c.tcpReads with
      | none :: rest =>
        if data = [] ∨ nmTcpTunnelBufferSize < data.length then none
        else some { c with
          tcpReads := some .ok :: rest, tcpRecvBuffer := store c.tcpRecvBuffer data
          readLength := data.length, tcpBytesRead := c.tcpBytesRead ++ data }
      | _ => none
    | .tcpReadFailed ec =>
      match c.tcpReads with
      | none :: rest => if ec = .ok then none else some { c with tcpReads := some ec :: rest }
      | _ => none
    | .tcpReaden =>
      match c.tcpReads with
      | some ec :: rest => some ({ c with tcpReads := rest }.tcpReaden ec)
      | _ => none
    | .tcpSent n =>
      match c.tcpWrites with
      | none :: rest =>
        if c.tcpWriteLeft < n then none
        else some { c with
          tcpWrites := (if n = c.tcpWriteLeft then some .ok else none) :: rest
          tcpWriteAt := c.tcpWriteAt + n, tcpWriteLeft := c.tcpWriteLeft - n
          tcpBytesWritten := c.tcpBytesWritten ++ (c.streamRecvBuffer.drop c.tcpWriteAt).take n }
      | _ => none
    | .tcpWriteFailed ec =>
      match c.tcpWrites with
      | none :: rest => if ec = .ok then none else some { c with tcpWrites := some ec :: rest }
      | _ => none
    | .tcpWritten =>
      match c.tcpWrites with
      | some ec :: rest => some ({ c with tcpWrites := rest }.tcpWritten ec)
      | _ => none
    | .streamReceived data =>
      if c.streamReads = 0 ∨ data = [] ∨ nmTcpTunnelBufferSize < data.length then none
      else some ({ c with
        streamReads := c.streamReads - 1, streamRecvBuffer := store c.streamRecvBuffer data
        streamReadSize := data.length
        streamBytesRead := c.streamBytesRead ++ data }.streamReaden .ok)
    | .streamReadFailed ec =>
      if c.streamReads = 0 ∨ ec = .ok then none
      else some ({ c with streamReads := c.streamReads - 1 }.streamReaden ec)
    | .streamTaken n =>
      if c.streamWrites = 0 ∨ n = 0 ∨ c.streamWriteLeft < n then none
      else
        let c' := { c with
          streamWriteAt := c.streamWriteAt + n, streamWriteLeft := c.streamWriteLeft - n
          streamBytesWritten :=
            c.streamBytesWritten ++ (c.tcpRecvBuffer.drop c.streamWriteAt).take n }
        if n = c.streamWriteLeft then
          some ({ c' with streamWrites := c.streamWrites - 1 }.streamWritten .ok)
        else some c'
    | .streamWriteFailed ec =>
      if c.streamWrites = 0 ∨ ec = .ok then none
      else some ({ c with streamWrites := c.streamWrites - 1 }.streamWritten ec)
    | .streamClosed _ =>
      if c.streamCloses = 0 then none
      else some { c with streamCloses := c.streamCloses - 1 }.streamClosed
    | .stop => if c.service = none then none else some { c with service := none }.stopFromManager

/-- The connection as `nm_tcp_tunnel_connection_init` leaves it if nothing fails. -/
def initialisedConnection (service stream : ℕ) (address : NpIpAddress) (port : UInt16) :
    NmTcpTunnelConnection :=
  { service := some service, stream := some stream, address := address, port := port }

def tunnelConnection (service stream : ℕ) (address : NpIpAddress) (port : UInt16) :
    Machine NmTcpTunnelConnection TunnelConnectionEvent :=
  ⟨(initialisedConnection service stream address port).start, tunnelConnectionStep⟩

end NabtoDevice
