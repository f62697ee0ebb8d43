import NabtoDevice.Lib.Relay
import NabtoDevice.Proofs.TcpTunnelConnection

/-! The bytes that go through a tunnel connection. Each direction is a relay with one buffer:
the bytes held are those of the buffer that a posted read has stored or that a write has not yet
taken, and the sink is closed by `nc_stream_async_close` or `np_tcp_shutdown`. A step of the
connection is at most one step of each relay. -/

namespace NabtoDevice

open Relay

variable {rest : List (Option NpErrorCode)}

namespace NmTcpTunnelConnection

variable {c c' : NmTcpTunnelConnection} {e : TunnelConnectionEvent}

/-! ## The two relays -/

def toStreamHeld (c : NmTcpTunnelConnection) : List UInt8 :=
  if c.streamWrites ≠ 0 then (c.tcpRecvBuffer.drop c.streamWriteAt).take c.streamWriteLeft
  else if some .ok ∈ c.tcpReads then c.tcpRecvBuffer.take c.readLength
  else []

def toTcpHeld (c : NmTcpTunnelConnection) : List UInt8 :=
  if c.tcpWrites ≠ [] then (c.streamRecvBuffer.drop c.tcpWriteAt).take c.tcpWriteLeft else []

def relayPhase (closed ended null : Bool) : Phase :=
  if closed then .closed else if ended || null then .failed else .running

def toStream (c : NmTcpTunnelConnection) : State UInt8 where
  received := c.tcpBytesRead
  held := c.toStreamHeld
  sent := c.streamBytesWritten
  phase := relayPhase c.streamCloseCalled c.tcpReadEnded (c.nullCalls.contains .write)

def toTcp (c : NmTcpTunnelConnection) : State UInt8 where
  received := c.streamBytesRead
  held := c.toTcpHeld
  sent := c.tcpBytesWritten
  phase := relayPhase c.tcpShutdown c.streamReadEnded (c.nullCalls.contains .read)

/-! ## What both directions share -/

theorem ok_mem_npTcpAbort (aborted : Bool) (ops : List (Option NpErrorCode)) :
    some .ok ∈ npTcpAbort aborted ops ↔ some .ok ∈ ops := by
  unfold npTcpAbort
  split_ifs
  · rfl
  · rw [List.mem_map]
    constructor
    · rintro ⟨ec, hmem, hec⟩
      cases ec with
      | none => cases hec
      | some ec => exact hec ▸ hmem
    · exact fun hmem => ⟨_, hmem, rfl⟩

theorem npTcpAbort_eq_nil (aborted : Bool) (ops : List (Option NpErrorCode)) :
    npTcpAbort aborted ops = [] ↔ ops = [] := by
  rw [← List.length_eq_zero_iff, npTcpAbort_length, List.length_eq_zero_iff]

@[simp] theorem abort_toStream (c : NmTcpTunnelConnection) :
    c.abortConnection.toStream = c.toStream := by
  simp [toStream, toStreamHeld, abortConnection, ok_mem_npTcpAbort]

@[simp] theorem abort_toTcp (c : NmTcpTunnelConnection) : c.abortConnection.toTcp = c.toTcp := by
  simp [toTcp, toTcpHeld, abortConnection, npTcpAbort_eq_nil]

@[simp] theorem isEnded_toStream (c : NmTcpTunnelConnection) : c.isEnded.toStream = c.toStream := by
  unfold isEnded
  split_ifs <;> rfl

@[simp] theorem isEnded_toTcp (c : NmTcpTunnelConnection) : c.isEnded.toTcp = c.toTcp := by
  unfold isEnded
  split_ifs <;> rfl

/-! ### The other direction -/

theorem closeStream_toTcp (c : NmTcpTunnelConnection) : c.closeStream.toTcp = c.toTcp := by
  unfold closeStream
  split
  · rfl
  · exact isEnded_toTcp _

theorem tcpReaden_toTcp (hnull : c.nullCalls = []) (ec : NpErrorCode) :
    (c.tcpReaden ec).toTcp = c.toTcp := by
  unfold tcpReaden
  split_ifs
  · exact closeStream_toTcp c
  · exact abort_toTcp _
  · unfold startStreamWrite
    split
    · rfl
    · simp [toTcp, toTcpHeld, hnull]

theorem streamWritten_toTcp (c : NmTcpTunnelConnection) (ec : NpErrorCode) :
    (c.streamWritten ec).toTcp = c.toTcp := by
  unfold streamWritten
  split_ifs
  · exact (isEnded_toTcp _).trans (abort_toTcp _)
  · rfl

theorem startStreamRead_toStream (hnull : c.nullCalls = []) :
    c.startStreamRead.toStream = c.toStream := by
  unfold startStreamRead
  split
  · rfl
  · simp [toStream, toStreamHeld, hnull]

theorem streamReaden_toStream (c : NmTcpTunnelConnection) (ec : NpErrorCode) :
    (c.streamReaden ec).toStream = c.toStream := by
  unfold streamReaden
  split_ifs
  · exact isEnded_toStream _
  · exact (isEnded_toStream _).trans (abort_toStream _)
  · rfl

theorem tcpWritten_toStream (hnull : c.nullCalls = []) (ec : NpErrorCode) :
    (c.tcpWritten ec).toStream = c.toStream := by
  unfold tcpWritten
  split_ifs
  · exact (isEnded_toStream _).trans (abort_toStream _)
  · exact startStreamRead_toStream hnull

theorem startTcpRead_toStream (c : NmTcpTunnelConnection) :
    c.startTcpRead.toStream = c.toStream := by
  simp [toStream, toStreamHeld, startTcpRead]

/-! ### The buffers -/

def buffers (c : NmTcpTunnelConnection) : List UInt8 × List UInt8 :=
  (c.tcpRecvBuffer, c.streamRecvBuffer)

theorem isEnded_buffers (c : NmTcpTunnelConnection) : c.isEnded.buffers = c.buffers := by
  unfold isEnded
  split_ifs <;> rfl

theorem closeStream_buffers (c : NmTcpTunnelConnection) : c.closeStream.buffers = c.buffers := by
  unfold closeStream
  split
  · rfl
  · exact isEnded_buffers _

theorem tcpReaden_buffers (c : NmTcpTunnelConnection) (ec : NpErrorCode) :
    (c.tcpReaden ec).buffers = c.buffers := by
  unfold tcpReaden
  split_ifs
  · exact closeStream_buffers c
  · rfl
  · unfold startStreamWrite
    split <;> rfl

theorem streamWritten_buffers (c : NmTcpTunnelConnection) (ec : NpErrorCode) :
    (c.streamWritten ec).buffers = c.buffers := by
  unfold streamWritten
  split_ifs
  · exact isEnded_buffers _
  · rfl

theorem startStreamRead_buffers (c : NmTcpTunnelConnection) :
    c.startStreamRead.buffers = c.buffers := by
  unfold startStreamRead
  split <;> rfl

theorem streamReaden_buffers (c : NmTcpTunnelConnection) (ec : NpErrorCode) :
    (c.streamReaden ec).buffers = c.buffers := by
  unfold streamReaden
  split_ifs
  · exact isEnded_buffers _
  · exact isEnded_buffers _
  · rfl

theorem tcpWritten_buffers (c : NmTcpTunnelConnection) (ec : NpErrorCode) :
    (c.tcpWritten ec).buffers = c.buffers := by
  unfold tcpWritten
  split_ifs
  · exact isEnded_buffers _
  · exact startStreamRead_buffers c

theorem connectCallback_buffers (c : NmTcpTunnelConnection) (ec : NpErrorCode) :
    (c.connectCallback ec).buffers = c.buffers := by
  unfold connectCallback
  split_ifs
  · rfl
  · exact startStreamRead_buffers _

/-! ## The ends of the directions -/

/-- A side that was told the end gets no more data, and a write that is done has nothing left. -/
structure Ends (c : NmTcpTunnelConnection) : Prop where
  closes : c.streamCloseCalled = true → c.streamCloses ≠ 0 ∨ c.tcpReadEnded = true
  shutdown : c.tcpShutdown = true → c.streamReadEnded = true
  written : some .ok ∈ c.tcpWrites → c.tcpWriteLeft = 0

theorem Ends.isEnded (h : Ends c) : Ends c.isEnded := by
  unfold NmTcpTunnelConnection.isEnded
  split_ifs
  · exact ⟨h.closes, h.shutdown, h.written⟩
  · exact h

theorem Ends.abort (h : Ends c) : Ends c.abortConnection :=
  ⟨h.closes, h.shutdown, fun hmem => h.written ((ok_mem_npTcpAbort _ _).mp hmem)⟩

theorem Ends.endTcpRead (h : Ends c) : Ends { c with tcpReadEnded := true } :=
  ⟨fun _ => .inr rfl, h.shutdown, h.written⟩

theorem Ends.endStreamRead (h : Ends c) : Ends { c with streamReadEnded := true } :=
  ⟨h.closes, fun _ => rfl, h.written⟩

theorem Ends.closeStream (h : Ends c) : Ends c.closeStream := by
  unfold NmTcpTunnelConnection.closeStream
  split
  · exact ⟨fun _ => .inl (Nat.succ_ne_zero _), h.shutdown, h.written⟩
  · exact h.endTcpRead.isEnded

theorem Ends.tcpReaden (h : Ends c) (ec : NpErrorCode) : Ends (c.tcpReaden ec) := by
  unfold NmTcpTunnelConnection.tcpReaden
  split_ifs
  · exact h.closeStream
  · exact h.endTcpRead.abort
  · unfold startStreamWrite
    split <;> exact ⟨h.closes, h.shutdown, h.written⟩

theorem Ends.streamWritten (h : Ends c) (ec : NpErrorCode) : Ends (c.streamWritten ec) := by
  unfold NmTcpTunnelConnection.streamWritten
  split_ifs
  · exact h.endTcpRead.abort.isEnded
  · exact ⟨h.closes, h.shutdown, h.written⟩

theorem Ends.startStreamRead (h : Ends c) : Ends c.startStreamRead := by
  unfold NmTcpTunnelConnection.startStreamRead
  split <;> exact ⟨h.closes, h.shutdown, h.written⟩

theorem Ends.streamReaden (h : Ends c) (hidle : c.tcpWrites = []) (ec : NpErrorCode) :
    Ends (c.streamReaden ec) := by
  unfold NmTcpTunnelConnection.streamReaden
  split_ifs
  · refine Ends.isEnded ⟨h.closes, fun _ => rfl, h.written⟩
  · exact h.endStreamRead.abort.isEnded
  · refine ⟨h.closes, h.shutdown, fun hmem => ?_⟩
    simp [startTcpWrite, hidle] at hmem

theorem Ends.tcpWritten (h : Ends c) (ec : NpErrorCode) : Ends (c.tcpWritten ec) := by
  unfold NmTcpTunnelConnection.tcpWritten
  split_ifs
  · exact h.endStreamRead.abort.isEnded
  · exact h.startStreamRead

theorem Ends.connectCallback (h : Ends c) (ec : NpErrorCode) : Ends (c.connectCallback ec) := by
  unfold NmTcpTunnelConnection.connectCallback
  split_ifs
  · exact ⟨h.closes, h.shutdown, h.written⟩
  · have hread : Ends c.startTcpRead := ⟨h.closes, h.shutdown, h.written⟩
    exact hread.startStreamRead

/-! ## What the counts say about a direction -/

theorem Counts.tcpReading (h : Counts c 1 1) {ec : Option NpErrorCode}
    (hops : c.tcpReads = ec :: rest) :
    rest = [] ∧ c.streamWrites = 0 ∧ c.streamCloses = 0 ∧ c.tcpReadEnded = false := by
  have ha := h.toStream
  unfold toStreamOps at ha
  rw [hops, List.length_cons] at ha
  rw [← List.length_eq_zero_iff, ← Bool.toNat_eq_zero]
  omega

theorem Counts.streamWriting (h : Counts c 1 1) (hops : c.streamWrites ≠ 0) :
    c.streamWrites = 1 ∧ c.tcpReads = [] ∧ c.streamCloses = 0 ∧ c.tcpReadEnded = false := by
  have ha := h.toStream
  unfold toStreamOps at ha
  rw [← List.length_eq_zero_iff, ← Bool.toNat_eq_zero]
  omega

theorem Counts.streamClosing (h : Counts c 1 1) (hops : c.streamCloses ≠ 0) :
    c.tcpReads = [] ∧ c.streamWrites = 0 ∧ c.tcpReadEnded = false := by
  have ha := h.toStream
  unfold toStreamOps at ha
  rw [← List.length_eq_zero_iff, ← Bool.toNat_eq_zero]
  omega

theorem Counts.tcpWriting (h : Counts c 1 1) {ec : Option NpErrorCode}
    (hops : c.tcpWrites = ec :: rest) : rest = [] ∧ c.streamReadEnded = false := by
  have hb := h.toTcp
  unfold toTcpOps at hb
  rw [hops, List.length_cons] at hb
  rw [← List.length_eq_zero_iff, ← Bool.toNat_eq_zero]
  omega

theorem Counts.streamReading (h : Counts c 1 1) (hops : c.streamReads ≠ 0) :
    c.tcpWrites = [] ∧ c.streamReadEnded = false := by
  have hb := h.toTcp
  unfold toTcpOps at hb
  rw [← List.length_eq_zero_iff, ← Bool.toNat_eq_zero]
  omega

theorem Counts.connecting (h : Counts c 1 1) {ec : Option NpErrorCode}
    (hops : c.connects = ec :: rest) : c.tcpWrites = [] ∧ c.streamReadEnded = false := by
  have hb := h.toTcp
  unfold toTcpOps at hb
  rw [hops, List.length_cons] at hb
  rw [← List.length_eq_zero_iff, ← Bool.toNat_eq_zero]
  omega

theorem Ends.toStream_running (h : Ends c) (hnull : c.nullCalls = []) (hcloses : c.streamCloses = 0)
    (hended : c.tcpReadEnded = false) :
    c.streamCloseCalled = false ∧ c.toStream.phase = .running := by
  have hcalled : c.streamCloseCalled = false := by
    by_contra hcalled
    rcases h.closes (Bool.not_eq_false _ ▸ hcalled) with hne | hends
    · exact hne hcloses
    · rw [hended] at hends
      cases hends
  exact ⟨hcalled, by simp [toStream, relayPhase, hcalled, hended, hnull]⟩

theorem Ends.toTcp_running (h : Ends c) (hnull : c.nullCalls = [])
    (hended : c.streamReadEnded = false) : c.tcpShutdown = false ∧ c.toTcp.phase = .running := by
  have hcalled : c.tcpShutdown = false := by
    by_contra hcalled
    have hends := h.shutdown (Bool.not_eq_false _ ▸ hcalled)
    rw [hended] at hends
    cases hends
  exact ⟨hcalled, by simp [toTcp, relayPhase, hcalled, hended, hnull]⟩

theorem store_take (buffer data : List UInt8) : (store buffer data).take data.length = data :=
  List.take_left

theorem take_left (buffer : List UInt8) (start : ℕ) {left n : ℕ} (hn : n ≤ left) :
    ((buffer.drop start).take left).take n = (buffer.drop start).take n ∧
      ((buffer.drop start).take left).drop n = (buffer.drop (start + n)).take (left - n) := by
  constructor
  · rw [List.take_take, min_eq_left hn]
  · rw [List.drop_take, List.drop_drop]

end NmTcpTunnelConnection

open NmTcpTunnelConnection

variable {c c' : NmTcpTunnelConnection} {e : TunnelConnectionEvent}

theorem ends_step (h : Ends c) (hcounts : Counts c 1 1) (hm : TunnelMove c e c') : Ends c' := by
  cases hm with
  | connectResult | tcpReceived | tcpReadFailed | streamTaken =>
    exact ⟨h.closes, h.shutdown, h.written⟩
  | connectCallback =>
    apply Ends.connectCallback
    exact ⟨h.closes, h.shutdown, h.written⟩
  | tcpReaden =>
    apply Ends.tcpReaden
    exact ⟨h.closes, h.shutdown, h.written⟩
  | tcpSent hops hn =>
    refine ⟨h.closes, h.shutdown, fun hmem => ?_⟩
    rw [List.mem_cons] at hmem
    rcases hmem with hdone | hmem
    · have hall := (Option.ite_none_right_eq_some.mp hdone.symm).1
      simp [hall]
    · simp [h.written (hops ▸ List.mem_cons_of_mem _ hmem)]
  | tcpWriteFailed hops hec =>
    refine ⟨h.closes, h.shutdown, fun hmem => ?_⟩
    rw [List.mem_cons] at hmem
    rcases hmem with hok | hmem
    · exact absurd (Option.some.inj hok).symm hec
    · exact h.written (hops ▸ List.mem_cons_of_mem _ hmem)
  | tcpWritten hops =>
    apply Ends.tcpWritten
    exact ⟨h.closes, h.shutdown, fun hmem => h.written (hops ▸ List.mem_cons_of_mem _ hmem)⟩
  | streamReceived hops =>
    apply Ends.streamReaden
    · exact ⟨h.closes, h.shutdown, h.written⟩
    · exact (hcounts.streamReading hops).1
  | streamReadFailed hops =>
    apply Ends.streamReaden
    · exact ⟨h.closes, h.shutdown, h.written⟩
    · exact (hcounts.streamReading hops).1
  | streamWritten =>
    apply Ends.streamWritten
    exact ⟨h.closes, h.shutdown, h.written⟩
  | streamWriteFailed =>
    apply Ends.streamWritten
    exact ⟨h.closes, h.shutdown, h.written⟩
  | streamClosed =>
    apply Ends.isEnded
    exact ⟨fun _ => .inr rfl, h.shutdown, h.written⟩
  | stop =>
    apply Ends.abort
    exact ⟨h.closes, h.shutdown, h.written⟩

/-! ## A step of the connection is a step of each relay -/

/-- The end of a read of the socket: nothing changes when the write starts, and otherwise the
direction ends with nothing held that a write could have taken. -/
theorem tcpReaden_moves (h : Ends c) (hcounts : Counts c 1 1) (hnull : c.nullCalls = [])
    {ec : NpErrorCode} (hops : c.tcpReads = some ec :: rest) :
    Moves c.toStream ({ c with tcpReads := rest }.tcpReaden ec).toStream := by
  obtain ⟨rfl, hwrites, hcloses, hended⟩ := hcounts.tcpReading hops
  obtain ⟨hcalled, hrunning⟩ := h.toStream_running hnull hcloses hended
  unfold tcpReaden
  split_ifs with heof hec
  · have hheld : c.toStreamHeld = [] := by
      rcases heof with hlength | heof
      · have hlength : c.readLength = 0 := hlength
        simp [toStreamHeld, hwrites, hops, hlength]
      · simp [toStreamHeld, hwrites, hops, heof]
    unfold closeStream
    split
    · exact .close hrunning hheld rfl (by simp [toStream, toStreamHeld, hwrites]) rfl rfl
    · rw [isEnded_toStream]
      refine .fail hrunning ?_ ?_ rfl rfl
      · simp [toStream, relayPhase, hcalled]
      · simp [toStream, toStreamHeld, hwrites]
  · rw [abort_toStream]
    refine .fail hrunning ?_ ?_ rfl rfl
    · simp [toStream, relayPhase, hcalled]
    · simp [toStream, toStreamHeld, hwrites]
  · obtain rfl := not_ne_iff.mp hec
    unfold startStreamWrite
    split
    · apply Moves.of_eq
      simp [toStream, toStreamHeld, hwrites, hops]
    · refine .fail hrunning ?_ ?_ rfl rfl
      · simp [toStream, relayPhase, hcalled]
      · simp [toStream, toStreamHeld, hwrites]

theorem toStream_moves (h : Ends c) (hcounts : Counts c 1 1) (hnull : c.nullCalls = [])
    (hm : TunnelMove c e c') : Moves c.toStream c'.toStream := by
  cases hm with
  | connectResult | tcpSent | tcpWriteFailed => exact .refl
  | @connectCallback ec rest hops =>
    apply Moves.of_eq
    unfold connectCallback
    split_ifs
    · rfl
    · exact (startStreamRead_toStream (c := { c with connects := rest }.startTcpRead) hnull).trans
        (startTcpRead_toStream _)
  | @tcpReceived data rest hops =>
    obtain ⟨rfl, hwrites, hcloses, hended⟩ := hcounts.tcpReading hops
    obtain ⟨hcalled, hrunning⟩ := h.toStream_running hnull hcloses hended
    refine .receive data hrunning ?_ hrunning ?_ rfl rfl
    · simp [toStream, toStreamHeld, hwrites, hops]
    · simp [toStream, toStreamHeld, hwrites, store_take]
  | tcpReadFailed hops hec =>
    apply Moves.of_eq
    simp [toStream, toStreamHeld, hops, hec.symm]
  | tcpReaden hops => exact tcpReaden_moves h hcounts hnull hops
  | @tcpWritten ec rest hops =>
    exact .of_eq (tcpWritten_toStream (c := { c with tcpWrites := rest }) hnull ec)
  | streamReceived | streamReadFailed => exact .of_eq (streamReaden_toStream _ _)
  | @streamTaken n hops hn =>
    obtain ⟨htake, hdrop⟩ := take_left c.tcpRecvBuffer c.streamWriteAt hn
    refine .send n rfl ?_ rfl ?_
    · simp [toStream, toStreamHeld, hops, hdrop]
    · simp [toStream, toStreamHeld, hops, htake]
  | streamWritten hops =>
    obtain ⟨hone, hreads, -⟩ := hcounts.streamWriting hops
    simp only [streamWritten, ne_eq, not_true_eq_false, if_false]
    refine .send c.streamWriteLeft rfl ?_ rfl ?_
    · rw [show c.toStream.held = _ from if_pos hops, List.drop_take, Nat.sub_self, List.take_zero]
      simp [toStream, toStreamHeld, startTcpRead, hone, hreads]
    · rw [show c.toStream.held = _ from if_pos hops, List.take_take, min_self]
      rfl
  | streamWriteFailed hops hec =>
    obtain ⟨hone, hreads, hcloses, hended⟩ := hcounts.streamWriting hops
    obtain ⟨hcalled, hrunning⟩ := h.toStream_running hnull hcloses hended
    rw [streamWritten, if_pos hec, isEnded_toStream, abort_toStream]
    refine .fail hrunning ?_ ?_ rfl rfl
    · simp [toStream, relayPhase, hcalled]
    · simp [toStream, toStreamHeld, hone, hreads]
  | streamClosed hops =>
    obtain ⟨hreads, hwrites, hended⟩ := hcounts.streamClosing hops
    rw [streamClosed, isEnded_toStream]
    cases hcalled : c.streamCloseCalled with
    | true =>
      apply Moves.of_eq
      simp [toStream, toStreamHeld, relayPhase, hcalled]
    | false =>
      refine .fail ?_ ?_ ?_ rfl rfl
      · simp [toStream, relayPhase, hcalled, hended, hnull]
      · simp [toStream, relayPhase]
      · simp [toStream, toStreamHeld, hreads, hwrites]
  | stop => exact .of_eq (abort_toStream _)

theorem streamReaden_moves (h : Ends c) (hnull : c.nullCalls = []) (hidle : c.tcpWrites = [])
    (hended : c.streamReadEnded = false) {ec : NpErrorCode} (hec : ec ≠ .ok) :
    Moves c.toTcp (c.streamReaden ec).toTcp := by
  obtain ⟨hcalled, hrunning⟩ := h.toTcp_running hnull hended
  unfold streamReaden
  split_ifs with heof
  · rw [closeTcp, isEnded_toTcp]
    refine .close hrunning ?_ rfl ?_ rfl rfl <;> simp [toTcp, toTcpHeld, hidle]
  · rw [isEnded_toTcp, abort_toTcp]
    refine .fail hrunning ?_ ?_ rfl rfl
    · simp [toTcp, relayPhase, hcalled]
    · simp [toTcp, toTcpHeld, hidle]

/-- A read of the stream starts with nothing held. -/
theorem startStreamRead_moves (h : Ends c) (hnull : c.nullCalls = []) (hidle : c.tcpWrites = [])
    (hended : c.streamReadEnded = false) : Moves c.toTcp c.startStreamRead.toTcp := by
  obtain ⟨hcalled, hrunning⟩ := h.toTcp_running hnull hended
  unfold startStreamRead
  split
  · exact .refl
  · refine .fail hrunning ?_ ?_ rfl rfl
    · simp [toTcp, relayPhase, hcalled]
    · simp [toTcp, toTcpHeld, hidle]

theorem toTcp_moves (h : Ends c) (hcounts : Counts c 1 1) (hnull : c.nullCalls = [])
    (hm : TunnelMove c e c') : Moves c.toTcp c'.toTcp := by
  cases hm with
  | connectResult | tcpReceived | tcpReadFailed | streamTaken => exact .refl
  | @connectCallback ec rest hops =>
    obtain ⟨hidle, hended⟩ := hcounts.connecting hops
    unfold connectCallback
    split_ifs
    · exact .refl
    · exact startStreamRead_moves (c := { c with connects := rest }.startTcpRead)
        ⟨h.closes, h.shutdown, h.written⟩ hnull hidle hended
  | @tcpReaden ec rest hops =>
    exact .of_eq (tcpReaden_toTcp (c := { c with tcpReads := rest }) hnull ec)
  | @tcpSent n rest hops hn =>
    obtain ⟨htake, hdrop⟩ := take_left c.streamRecvBuffer c.tcpWriteAt hn
    refine .send n rfl ?_ rfl ?_
    · simp [toTcp, toTcpHeld, hops, hdrop]
    · simp [toTcp, toTcpHeld, hops, htake]
  | tcpWriteFailed hops =>
    apply Moves.of_eq
    simp [toTcp, toTcpHeld, hops]
  | @tcpWritten ec rest hops =>
    obtain ⟨rfl, hended⟩ := hcounts.tcpWriting hops
    obtain ⟨hcalled, hrunning⟩ := h.toTcp_running hnull hended
    unfold tcpWritten
    split_ifs with hec
    · rw [isEnded_toTcp, abort_toTcp]
      refine .fail hrunning ?_ rfl rfl rfl
      simp [toTcp, relayPhase, hcalled]
    · -- a write that is done has nothing left
      obtain rfl := not_ne_iff.mp hec
      have hleft := h.written (hops ▸ List.mem_cons_self)
      have hsame : { c with tcpWrites := [] }.toTcp = c.toTcp := by
        simp [toTcp, toTcpHeld, hops, hleft]
      rw [← hsame]
      exact startStreamRead_moves ⟨h.closes, h.shutdown, fun hmem => absurd hmem List.not_mem_nil⟩
        hnull rfl hended
  | @streamReceived data hops hdata =>
    obtain ⟨hidle, hended⟩ := hcounts.streamReading hops
    obtain ⟨hcalled, hrunning⟩ := h.toTcp_running hnull hended
    have hlength : data.length ≠ 0 := by simpa using hdata
    simp only [streamReaden, hlength, false_or, ne_eq, not_true_eq_false, if_false, reduceCtorEq]
    refine .receive data hrunning ?_ hrunning ?_ rfl rfl
    · simp [toTcp, toTcpHeld, hidle]
    · simp [toTcp, toTcpHeld, startTcpWrite, store_take]
  | streamReadFailed hops hec =>
    obtain ⟨hidle, hended⟩ := hcounts.streamReading hops
    exact streamReaden_moves (c := { c with streamReads := c.streamReads - 1 })
      ⟨h.closes, h.shutdown, h.written⟩ hnull hidle hended hec
  | streamWritten | streamWriteFailed => exact .of_eq (streamWritten_toTcp _ _)
  | streamClosed => exact .of_eq (isEnded_toTcp _)
  | stop => exact .of_eq (abort_toTcp _)

/-! ## Over a run -/

structure RelayInv (c : NmTcpTunnelConnection) : Prop where
  counts : Accounted c ∨ Leaked c
  ends : Ends c
  toStream : Sound c.toStream
  toTcp : Sound c.toTcp

theorem relayInv_step (h : RelayInv c) (hs : tunnelConnectionStep c e = some c') : RelayInv c' := by
  have hnull := nullCalls_of_step hs
  have hm := tunnelMove_of_step hs
  have hcounts := counts_of_move h.counts hm
  exact ⟨accounted_or_leaked_step h.counts hm, ends_step h.ends hcounts hm,
    h.toStream.moves (toStream_moves h.ends hcounts hnull hm),
    h.toTcp.moves (toTcp_moves h.ends hcounts hnull hm)⟩

theorem RelayInv.ops_le (h : RelayInv c) :
    c.connects.length + c.tcpReads.length + c.streamWrites + c.streamCloses ≤ 1 ∧
      c.connects.length + c.streamReads + c.tcpWrites.length ≤ 1 := by
  rcases h.counts with (⟨⟨-, ha, hb⟩, -⟩ | hfreed) | ⟨⟨-, ha, hb⟩, -⟩
  · unfold toStreamOps at ha
    unfold toTcpOps at hb
    omega
  · have hidle := hfreed.idle
    unfold outstanding at hidle
    omega
  · unfold toStreamOps at ha
    unfold toTcpOps at hb
    omega

/-- A buffer is only stored into while nothing writes from it. -/
theorem buffers_step (hcounts : Counts c 1 1) (hm : TunnelMove c e c') :
    (c.streamWrites ≠ 0 → c'.tcpRecvBuffer = c.tcpRecvBuffer) ∧
      (c.tcpWrites ≠ [] → c'.streamRecvBuffer = c.streamRecvBuffer) := by
  have hsame (hbuffers : c'.buffers = c.buffers) :
      (c.streamWrites ≠ 0 → c'.tcpRecvBuffer = c.tcpRecvBuffer) ∧
        (c.tcpWrites ≠ [] → c'.streamRecvBuffer = c.streamRecvBuffer) :=
    ⟨fun _ => congrArg Prod.fst hbuffers, fun _ => congrArg Prod.snd hbuffers⟩
  cases hm with
  | connectResult | tcpReadFailed | tcpSent | tcpWriteFailed | streamTaken | stop => exact hsame rfl
  | tcpReceived hops =>
    exact ⟨fun hwrites => absurd (hcounts.tcpReading hops).2.1 hwrites, fun _ => rfl⟩
  | streamReceived hops =>
    refine ⟨fun _ => congrArg Prod.fst (streamReaden_buffers _ _), fun hwrites => ?_⟩
    exact absurd (hcounts.streamReading hops).1 hwrites
  | connectCallback => exact hsame (connectCallback_buffers _ _)
  | tcpReaden => exact hsame (tcpReaden_buffers _ _)
  | tcpWritten => exact hsame (tcpWritten_buffers _ _)
  | streamReadFailed => exact hsame (streamReaden_buffers _ _)
  | streamWritten | streamWriteFailed => exact hsame (streamWritten_buffers _ _)
  | streamClosed => exact hsame (isEnded_buffers _)

/-- Both directions relay their bytes in order with one operation at a time, and a side is told
the end only after all bytes for it. -/
structure RelaysBytes (c : NmTcpTunnelConnection) : Prop where
  toStream : c.streamBytesWritten <+: c.tcpBytesRead
  toTcp : c.tcpBytesWritten <+: c.streamBytesRead
  oneToStream : c.connects.length + c.tcpReads.length + c.streamWrites + c.streamCloses ≤ 1
  oneToTcp : c.connects.length + c.streamReads + c.tcpWrites.length ≤ 1
  streamClosed : c.streamCloseCalled = true → c.streamBytesWritten = c.tcpBytesRead
  tcpShutdown : c.tcpShutdown = true → c.tcpBytesWritten = c.streamBytesRead

theorem RelayInv.relaysBytes (h : RelayInv c) : RelaysBytes c where
  toStream := h.toStream.sent_prefix
  toTcp := h.toTcp.sent_prefix
  oneToStream := h.ops_le.1
  oneToTcp := h.ops_le.2
  streamClosed hclosed :=
    h.toStream.sent_eq (by simp [NmTcpTunnelConnection.toStream, relayPhase, hclosed])
  tcpShutdown hclosed :=
    h.toTcp.sent_eq (by simp [NmTcpTunnelConnection.toTcp, relayPhase, hclosed])

/-- In every run of a connection each direction relays its bytes, and what is stored in a receive
buffer stays there while it is written out. -/
theorem tunnel_relays_bytes (service stream : ℕ) (address : NpIpAddress) (port : UInt16)
    (evs : List TunnelConnectionEvent) :
    (∀ t, (tunnelConnection service stream address port).Visits evs t → RelaysBytes t) ∧
    ∀ t e t', (tunnelConnection service stream address port).Takes evs t e →
      tunnelConnectionStep t e = some t' →
      (t.streamWrites ≠ 0 → t'.tcpRecvBuffer = t.tcpRecvBuffer) ∧
        (t.tcpWrites ≠ [] → t'.streamRecvBuffer = t.streamRecvBuffer) := by
  have hinv : ∀ t, (tunnelConnection service stream address port).Visits evs t → RelayInv t := by
    rintro t ⟨pre, -, hr⟩
    refine hr.invariant RelayInv ?_ fun t e t' ht hs => relayInv_step ht hs
    exact ⟨.inl accounted_start, ⟨nofun, nofun, nofun⟩, ⟨List.prefix_rfl, fun _ => rfl, nofun⟩,
      ⟨List.prefix_rfl, fun _ => rfl, nofun⟩⟩
  refine ⟨fun t hv => (hinv t hv).relaysBytes, fun t e t' ht hs => ?_⟩
  have hm := tunnelMove_of_step hs
  exact buffers_step (counts_of_move (hinv t ht.visits).counts hm) hm

theorem tunnel_relays_one_byte :
    ∃ t, (tunnelConnection 0 0 (.v4 []) 80).Run oneByteRun t ∧ t.streamCloseCalled = true ∧
      t.tcpBytesRead = [1] ∧ t.streamBytesWritten = [1] := by
  have hrun : ∃ t, (tunnelConnection 0 0 (.v4 []) 80).Run oneByteRun t ∧
    t.streamCloseCalled = true ∧
      t.tcpBytesRead = [1] := ⟨_, Machine.run_of_exec rfl, rfl, rfl⟩
  obtain ⟨t, hr, hclosed, hread⟩ := hrun
  have hrelays := (tunnel_relays_bytes 0 0 (.v4 []) 80 oneByteRun).1 t hr.visits
  exact ⟨t, hr, hclosed, hread, (hrelays.streamClosed hclosed).trans hread⟩

end NabtoDevice
