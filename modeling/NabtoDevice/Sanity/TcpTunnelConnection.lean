import NabtoDevice.Spec.TcpTunnelConnection
import Mathlib.Tactic.SplitIfs

/-! The two directions of a tunnel connection. In each of them exactly one thing is going on:
the connect they share, an operation of the direction, or the direction has ended. Every callback
takes its operation away and puts one thing in its place, so one invariant of counts follows all
operations of a connection, until both directions have ended and it is freed. -/

namespace NabtoDevice

variable {a b : ℕ}

namespace NmTcpTunnelConnection

variable {c c' : NmTcpTunnelConnection}

def outstanding (c : NmTcpTunnelConnection) : ℕ :=
  c.connects.length + c.tcpReads.length + c.tcpWrites.length + c.streamReads + c.streamWrites +
    c.streamCloses

def toStreamOps (c : NmTcpTunnelConnection) : ℕ :=
  c.connects.length + c.tcpReads.length + c.streamWrites + c.streamCloses + c.tcpReadEnded.toNat +
    c.nullCalls.count .write

def toTcpOps (c : NmTcpTunnelConnection) : ℕ :=
  c.connects.length + c.streamReads + c.tcpWrites.length + c.streamReadEnded.toNat +
    c.nullCalls.count .read

@[simp] theorem npTcpAbort_length (aborted : Bool) (ops : List (Option NpErrorCode)) :
    (npTcpAbort aborted ops).length = ops.length := by
  unfold npTcpAbort
  split_ifs
  · rfl
  · exact List.length_map _

/-- A connection that is not freed, with so much going on in its directions. -/
structure Counts (c : NmTcpTunnelConnection) (toStream toTcp : ℕ) : Prop where
  live : c.frees = 0
  toStream : c.toStreamOps = toStream
  toTcp : c.toTcpOps = toTcp

structure Freed (c : NmTcpTunnelConnection) : Prop where
  once : c.frees = 1
  idle : c.outstanding = 0
  unlisted : c.service = none

/-- One thing goes on in each direction and not both have ended, or the connection was freed. -/
def Accounted (c : NmTcpTunnelConnection) : Prop :=
  (Counts c 1 1 ∧ (c.tcpReadEnded && c.streamReadEnded) = false) ∨ Freed c

/-- Both directions have ended, and the connection is aborted but not freed. -/
structure Leaked (c : NmTcpTunnelConnection) : Prop where
  counts : Counts c 1 1
  tcp : c.tcpReadEnded = true
  stream : c.streamReadEnded = true
  aborted : c.stream = none

theorem Counts.abort (h : Counts c a b) : Counts c.abortConnection a b := by
  obtain ⟨hlive, ha, hb⟩ := h
  refine ⟨hlive, ?_, ?_⟩
  · simpa [toStreamOps, abortConnection] using ha
  · simpa [toTcpOps, abortConnection] using hb

/-- A direction in which nothing goes on has not ended. -/
theorem Counts.tcpReadEnded_eq (h : Counts c 0 b) : c.tcpReadEnded = false := by
  have htoStream := h.toStream
  unfold toStreamOps at htoStream
  cases hended : c.tcpReadEnded with
  | false => rfl
  | true => simp [hended] at htoStream

theorem Counts.streamReadEnded_eq (h : Counts c a 0) : c.streamReadEnded = false := by
  have htoTcp := h.toTcp
  unfold toTcpOps at htoTcp
  cases hended : c.streamReadEnded with
  | false => rfl
  | true => simp [hended] at htoTcp

theorem Counts.endTcpRead (h : Counts c 0 b) : Counts { c with tcpReadEnded := true } 1 b := by
  have hended := h.tcpReadEnded_eq
  obtain ⟨hlive, ha, hb⟩ := h
  refine ⟨hlive, ?_, hb⟩
  simp only [toStreamOps, hended, Bool.toNat_false, Bool.toNat_true] at ha ⊢
  omega

theorem Counts.endStreamRead (h : Counts c a 0) :
    Counts { c with streamReadEnded := true } a 1 := by
  have hended := h.streamReadEnded_eq
  obtain ⟨hlive, ha, hb⟩ := h
  refine ⟨hlive, ha, ?_⟩
  simp only [toTcpOps, hended, Bool.toNat_false, Bool.toNat_true] at hb ⊢
  omega

/-- `is_ended` frees the connection exactly when nothing is left to be waited for. -/
theorem Counts.isEnded (h : Counts c 1 1) : Accounted c.isEnded := by
  unfold NmTcpTunnelConnection.isEnded
  split_ifs with hended
  · obtain ⟨htcp, hstream⟩ := Bool.and_eq_true_iff.mp hended
    obtain ⟨hlive, ha, hb⟩ := h
    simp only [toStreamOps, toTcpOps, htcp, hstream, Bool.toNat_true] at ha hb
    refine .inr ⟨by simp [theEnd, free, hlive], ?_, rfl⟩
    simp only [outstanding, theEnd, free]
    omega
  · exact .inl ⟨h, Bool.eq_false_iff.mpr hended⟩

theorem Counts.closeStream (h : Counts c 0 1) : Accounted c.closeStream := by
  unfold NmTcpTunnelConnection.closeStream
  split
  · have hended := h.tcpReadEnded_eq
    obtain ⟨hlive, ha, hb⟩ := h
    refine .inl ⟨⟨hlive, ?_, hb⟩, by simp [hended]⟩
    simp only [toStreamOps] at ha ⊢
    omega
  · exact h.endTcpRead.isEnded

theorem Counts.streamClosed (h : Counts c 0 1) : Accounted c.streamClosed := h.endTcpRead.isEnded

theorem Counts.startStreamWrite (h : Counts c 0 1) (transferred : ℕ) :
    Accounted (c.startStreamWrite transferred) := by
  have hended := h.tcpReadEnded_eq
  obtain ⟨hlive, ha, hb⟩ := h
  unfold NmTcpTunnelConnection.startStreamWrite
  split
  · refine .inl ⟨⟨hlive, ?_, hb⟩, by simp [hended]⟩
    simp only [toStreamOps] at ha ⊢
    omega
  · refine .inl ⟨⟨hlive, ?_, ?_⟩, by simp [hended]⟩
    · simp only [toStreamOps, List.count_append, List.count_singleton_self] at ha ⊢
      omega
    · simpa [toTcpOps, List.count_append] using hb

theorem Counts.startTcpRead (h : Counts c 0 b) : Counts c.startTcpRead 1 b := by
  obtain ⟨hlive, ha, hb⟩ := h
  refine ⟨hlive, ?_, hb⟩
  simp only [toStreamOps, NmTcpTunnelConnection.startTcpRead, List.length_append,
    List.length_singleton] at ha ⊢
  omega

theorem Counts.streamWritten (h : Counts c 0 1) (ec : NpErrorCode) :
    Accounted (c.streamWritten ec) := by
  unfold NmTcpTunnelConnection.streamWritten
  split_ifs
  · exact h.endTcpRead.abort.isEnded
  · refine .inl ⟨h.startTcpRead, ?_⟩
    simp [NmTcpTunnelConnection.startTcpRead, h.tcpReadEnded_eq]

theorem Counts.startStreamRead (h : Counts c 1 0) : Accounted c.startStreamRead := by
  have hended := h.streamReadEnded_eq
  obtain ⟨hlive, ha, hb⟩ := h
  unfold NmTcpTunnelConnection.startStreamRead
  split
  · refine .inl ⟨⟨hlive, ha, ?_⟩, by simp [hended]⟩
    simp only [toTcpOps] at hb ⊢
    omega
  · refine .inl ⟨⟨hlive, ?_, ?_⟩, by simp [hended]⟩
    · simpa [toStreamOps, List.count_append] using ha
    · simp only [toTcpOps, List.count_append, List.count_singleton_self] at hb ⊢
      omega

theorem Counts.closeTcp (h : Counts c 1 0) : Accounted c.closeTcp := by
  obtain ⟨hlive, ha, hb⟩ := h.endStreamRead
  exact Counts.isEnded ⟨hlive, ha, hb⟩

theorem Counts.startTcpWrite (h : Counts c 1 0) (transferred : ℕ) :
    Accounted (c.startTcpWrite transferred) := by
  have hended := h.streamReadEnded_eq
  obtain ⟨hlive, ha, hb⟩ := h
  refine .inl ⟨⟨hlive, ha, ?_⟩, by simp [NmTcpTunnelConnection.startTcpWrite, hended]⟩
  simp only [toTcpOps, NmTcpTunnelConnection.startTcpWrite, List.length_append,
    List.length_singleton] at hb ⊢
  omega

theorem Counts.streamReaden (h : Counts c 1 0) (ec : NpErrorCode) :
    Accounted (c.streamReaden ec) := by
  unfold NmTcpTunnelConnection.streamReaden
  split_ifs
  · exact h.closeTcp
  · exact h.endStreamRead.abort.isEnded
  · exact h.startTcpWrite _

theorem Counts.tcpWritten (h : Counts c 1 0) (ec : NpErrorCode) : Accounted (c.tcpWritten ec) := by
  unfold NmTcpTunnelConnection.tcpWritten
  split_ifs
  · exact h.endStreamRead.abort.isEnded
  · exact h.startStreamRead

theorem Counts.connectCallback (h : Counts c 0 0) (ec : NpErrorCode) :
    Accounted (c.connectCallback ec) := by
  unfold NmTcpTunnelConnection.connectCallback
  split_ifs
  · obtain ⟨hlive, ha, hb⟩ := h
    simp only [toStreamOps, toTcpOps] at ha hb
    refine .inr ⟨by simp [theEnd, free, hlive], ?_, rfl⟩
    simp only [outstanding, theEnd, free]
    omega
  · exact h.startTcpRead.startStreamRead

def readFails (c : NmTcpTunnelConnection) (ec : NpErrorCode) : Bool :=
  decide (c.readLength ≠ 0) && decide (ec ≠ .eof) && decide (ec ≠ .ok)

theorem Counts.tcpReaden (h : Counts c 0 1) (ec : NpErrorCode) :
    ((c.readFails ec && c.streamReadEnded) = false → Accounted (c.tcpReaden ec)) ∧
      ((c.readFails ec && c.streamReadEnded) = true → Leaked (c.tcpReaden ec)) := by
  unfold NmTcpTunnelConnection.tcpReaden readFails
  split_ifs with heof herror
  · refine ⟨fun _ => h.closeStream, fun hleak => absurd heof ?_⟩
    simp only [Bool.and_eq_true, decide_eq_true_eq] at hleak
    exact not_or.mpr ⟨hleak.1.1.1, hleak.1.1.2⟩
  · -- the branch without `is_ended`
    obtain ⟨hlength, hec⟩ := not_or.mp heof
    constructor
    · intro hleak
      have hstream : c.streamReadEnded = false := by simpa [hlength, hec, herror] using hleak
      exact .inl ⟨h.endTcpRead.abort, by simp [abortConnection, hstream]⟩
    · intro hleak
      exact ⟨h.endTcpRead.abort, rfl, (Bool.and_eq_true_iff.mp hleak).2, rfl⟩
  · refine ⟨fun _ => h.startStreamWrite _, fun hleak => absurd hleak ?_⟩
    simp [not_ne_iff.mp herror]

theorem Leaked.outstanding_eq (h : Leaked c) : c.outstanding = 0 := by
  have ha := h.counts.toStream
  have hb := h.counts.toTcp
  simp only [toStreamOps, toTcpOps, h.tcp, h.stream, Bool.toNat_true] at ha hb
  unfold outstanding
  omega

end NmTcpTunnelConnection

/-! ## The steps -/

open NmTcpTunnelConnection

inductive TunnelMove (c : NmTcpTunnelConnection) :
    TunnelConnectionEvent → NmTcpTunnelConnection → Prop
  | connectResult {ec : NpErrorCode} {rest : List (Option NpErrorCode)}
    (hops : c.connects = none :: rest) :
      TunnelMove c (.connectResult ec) { c with connects := some ec :: rest }
  | connectCallback {ec : NpErrorCode} {rest : List (Option NpErrorCode)}
      (hops : c.connects = some ec :: rest) :
      TunnelMove c .connectCallback ({ c with connects := rest }.connectCallback ec)
  | tcpReceived {data : List UInt8} {rest : List (Option NpErrorCode)}
      (hops : c.tcpReads = none :: rest)
      (hdata : data ≠ []) :
      TunnelMove c (.tcpReceived data) { c with
        tcpReads := some .ok :: rest, tcpRecvBuffer := store c.tcpRecvBuffer data
        readLength := data.length, tcpBytesRead := c.tcpBytesRead ++ data }
  | tcpReadFailed {ec : NpErrorCode} {rest : List (Option NpErrorCode)}
      (hops : c.tcpReads = none :: rest)
      (hec : ec ≠ .ok) : TunnelMove c (.tcpReadFailed ec) { c with tcpReads := some ec :: rest }
  | tcpReaden {ec : NpErrorCode} {rest : List (Option NpErrorCode)}
      (hops : c.tcpReads = some ec :: rest) :
      TunnelMove c .tcpReaden ({ c with tcpReads := rest }.tcpReaden ec)
  | tcpSent {n : ℕ} {rest : List (Option NpErrorCode)} (hops : c.tcpWrites = none :: rest)
      (hn : n ≤ c.tcpWriteLeft) :
      TunnelMove c (.tcpSent n) { c with
        tcpWrites := (if n = c.tcpWriteLeft then some .ok else none) :: rest
        tcpWriteAt := c.tcpWriteAt + n, tcpWriteLeft := c.tcpWriteLeft - n
        tcpBytesWritten := c.tcpBytesWritten ++ (c.streamRecvBuffer.drop c.tcpWriteAt).take n }
  | tcpWriteFailed {ec : NpErrorCode} {rest : List (Option NpErrorCode)}
      (hops : c.tcpWrites = none :: rest) (hec : ec ≠ .ok) :
      TunnelMove c (.tcpWriteFailed ec) { c with tcpWrites := some ec :: rest }
  | tcpWritten {ec : NpErrorCode} {rest : List (Option NpErrorCode)}
      (hops : c.tcpWrites = some ec :: rest) :
      TunnelMove c .tcpWritten ({ c with tcpWrites := rest }.tcpWritten ec)
  | streamReceived {data : List UInt8} (hops : c.streamReads ≠ 0) (hdata : data ≠ []) :
      TunnelMove c (.streamReceived data) ({ c with
        streamReads := c.streamReads - 1, streamRecvBuffer := store c.streamRecvBuffer data
        streamReadSize := data.length
        streamBytesRead := c.streamBytesRead ++ data }.streamReaden .ok)
  | streamReadFailed {ec : NpErrorCode} (hops : c.streamReads ≠ 0) (hec : ec ≠ .ok) :
      TunnelMove c (.streamReadFailed ec)
        ({ c with streamReads := c.streamReads - 1 }.streamReaden ec)
  | streamTaken {n : ℕ} (hops : c.streamWrites ≠ 0) (hn : n ≤ c.streamWriteLeft)
      (hleft : n ≠ c.streamWriteLeft) :
      TunnelMove c (.streamTaken n) { c with
        streamWriteAt := c.streamWriteAt + n, streamWriteLeft := c.streamWriteLeft - n
        streamBytesWritten :=
          c.streamBytesWritten ++ (c.tcpRecvBuffer.drop c.streamWriteAt).take n }
  | streamWritten (hops : c.streamWrites ≠ 0) :
      TunnelMove c (.streamTaken c.streamWriteLeft) ({ c with
        streamWriteAt := c.streamWriteAt + c.streamWriteLeft
        streamWriteLeft := c.streamWriteLeft - c.streamWriteLeft
        streamBytesWritten :=
          c.streamBytesWritten ++ (c.tcpRecvBuffer.drop c.streamWriteAt).take c.streamWriteLeft
        streamWrites := c.streamWrites - 1 }.streamWritten .ok)
  | streamWriteFailed {ec : NpErrorCode} (hops : c.streamWrites ≠ 0) (hec : ec ≠ .ok) :
      TunnelMove c (.streamWriteFailed ec)
        ({ c with streamWrites := c.streamWrites - 1 }.streamWritten ec)
  | streamClosed {ec : NpErrorCode} (hops : c.streamCloses ≠ 0) :
      TunnelMove c (.streamClosed ec) { c with streamCloses := c.streamCloses - 1 }.streamClosed
  | stop (hlisted : c.service ≠ none) :
      TunnelMove c .stop { c with service := none }.stopFromManager

variable {c c' : NmTcpTunnelConnection} {e : TunnelConnectionEvent}

theorem nullCalls_of_step (hs : tunnelConnectionStep c e = some c') : c.nullCalls = [] :=
  not_ne_iff.mp (Option.ite_none_left_eq_some.mp hs).1

/-- An operation without a result is outstanding. -/
theorem of_outstanding {ops : List (Option NpErrorCode)}
    {f : List (Option NpErrorCode) → Option NmTcpTunnelConnection} (h : (match ops with
      | none :: rest => f rest
      | _ => none) = some c') : ∃ rest, ops = none :: rest ∧ f rest = some c' := by
  match ops with
  | [] | some _ :: _ => cases h
  | none :: rest => exact ⟨rest, rfl, h⟩

/-- An operation with a result waits for its callback. -/
theorem of_completed {ops : List (Option NpErrorCode)}
    {f : NpErrorCode → List (Option NpErrorCode) → NmTcpTunnelConnection}
    (h : (match ops with
      | some ec :: rest => some (f ec rest)
      | _ => none) = some c') : ∃ ec rest, ops = some ec :: rest ∧ f ec rest = c' := by
  match ops with
  | [] | none :: _ => cases h
  | some ec :: rest => exact ⟨ec, rest, rfl, Option.some.inj h⟩

theorem tunnelMove_streamTaken {n : ℕ} (hs : tunnelConnectionStep c (.streamTaken n) = some c') :
    TunnelMove c (.streamTaken n) c' := by
  obtain ⟨-, hs⟩ := Option.ite_none_left_eq_some.mp hs
  obtain ⟨hguard, hs⟩ := Option.ite_none_left_eq_some.mp hs
  obtain ⟨hops, hn⟩ := not_or.mp hguard
  dsimp only at hs
  split_ifs at hs with hall
  · subst hall
    exact Option.some.inj hs ▸ .streamWritten hops
  · exact Option.some.inj hs ▸ .streamTaken hops (not_lt.mp (not_or.mp hn).2) hall

theorem tunnelMove_of_step (hs : tunnelConnectionStep c e = some c') : TunnelMove c e c' := by
  have hrun := (Option.ite_none_left_eq_some.mp hs).2
  cases e with
  | connectResult ec =>
    obtain ⟨rest, hops, hrun⟩ := of_outstanding hrun
    exact Option.some.inj hrun ▸ .connectResult hops
  | connectCallback =>
    obtain ⟨ec, rest, hops, rfl⟩ := of_completed hrun
    exact .connectCallback hops
  | tcpReceived data =>
    obtain ⟨rest, hops, hrun⟩ := of_outstanding hrun
    obtain ⟨hdata, rfl⟩ := Machine.of_guard_not hrun
    exact .tcpReceived hops (not_or.mp hdata).1
  | tcpReadFailed ec =>
    obtain ⟨rest, hops, hrun⟩ := of_outstanding hrun
    obtain ⟨hec, rfl⟩ := Machine.of_guard_not hrun
    exact .tcpReadFailed hops hec
  | tcpReaden =>
    obtain ⟨ec, rest, hops, rfl⟩ := of_completed hrun
    exact .tcpReaden hops
  | tcpSent n =>
    obtain ⟨rest, hops, hrun⟩ := of_outstanding hrun
    obtain ⟨hn, rfl⟩ := Machine.of_guard_not hrun
    exact .tcpSent hops (not_lt.mp hn)
  | tcpWriteFailed ec =>
    obtain ⟨rest, hops, hrun⟩ := of_outstanding hrun
    obtain ⟨hec, rfl⟩ := Machine.of_guard_not hrun
    exact .tcpWriteFailed hops hec
  | tcpWritten =>
    obtain ⟨ec, rest, hops, rfl⟩ := of_completed hrun
    exact .tcpWritten hops
  | streamReceived data =>
    obtain ⟨hguard, rfl⟩ := Machine.of_guard_not hrun
    obtain ⟨hops, hdata⟩ := not_or.mp hguard
    exact .streamReceived hops (not_or.mp hdata).1
  | streamReadFailed ec =>
    obtain ⟨hguard, rfl⟩ := Machine.of_guard_not hrun
    exact .streamReadFailed (not_or.mp hguard).1 (not_or.mp hguard).2
  | streamTaken n => exact tunnelMove_streamTaken hs
  | streamWriteFailed ec =>
    obtain ⟨hguard, rfl⟩ := Machine.of_guard_not hrun
    exact .streamWriteFailed (not_or.mp hguard).1 (not_or.mp hguard).2
  | streamClosed ec =>
    obtain ⟨hops, rfl⟩ := Machine.of_guard_not hrun
    exact .streamClosed hops
  | stop =>
    obtain ⟨hlisted, rfl⟩ := Machine.of_guard_not hrun
    exact .stop hlisted

/-- Only a stop needs no operation. -/
theorem TunnelMove.outstanding (hm : TunnelMove c e c') (hidle : c.outstanding = 0) :
    c.service ≠ none ∧ c' = { c with service := none }.stopFromManager := by
  unfold NmTcpTunnelConnection.outstanding at hidle
  cases hm with
  | stop hlisted => exact ⟨hlisted, rfl⟩
  | connectResult hops | connectCallback hops | tcpReceived hops | tcpReadFailed hops
  | tcpReaden hops | tcpSent hops | tcpWriteFailed hops | tcpWritten hops =>
    rw [hops, List.length_cons] at hidle
    omega
  | streamReceived hops | streamReadFailed hops | streamTaken hops | streamWritten hops
  | streamWriteFailed hops | streamClosed hops => omega

/-- The step runs the branch of `tcp_readen` that does not look whether both directions have
ended, and the other direction has. -/
def leaksConnection (c : NmTcpTunnelConnection) (e : TunnelConnectionEvent) : Bool :=
  match e, c.tcpReads with
  | .tcpReaden, some ec :: _ => c.readFails ec && c.streamReadEnded
  | _, _ => false

/-- A step other than the end of a TCP read does not leak. -/
theorem leaks_of_accounted (hleak : leaksConnection c e = false) (h : Accounted c') :
    (leaksConnection c e = false → Accounted c') ∧ (leaksConnection c e = true → Leaked c') := by
  refine ⟨fun _ => h, fun hleak' => ?_⟩
  rw [hleak] at hleak'
  cases hleak'

theorem accounted_step (h : Accounted c) (hm : TunnelMove c e c') :
    (leaksConnection c e = false → Accounted c') ∧ (leaksConnection c e = true → Leaked c') := by
  rcases h with ⟨hcounts, hends⟩ | hfreed
  swap
  · -- no operation is left to call back, and the service does not know the connection
    exact absurd hfreed.unlisted (hm.outstanding hfreed.idle).1
  obtain ⟨hlive, ha, hb⟩ := hcounts
  simp only [toStreamOps] at ha
  simp only [toTcpOps] at hb
  cases hm with
  | connectResult hops =>
    refine leaks_of_accounted rfl (.inl ⟨⟨hlive, ?_, ?_⟩, hends⟩)
    · simpa [toStreamOps, hops] using ha
    · simpa [toTcpOps, hops] using hb
  | connectCallback hops =>
    rw [hops, List.length_cons] at ha hb
    apply leaks_of_accounted rfl
    apply Counts.connectCallback
    exact ⟨hlive, by simp only [toStreamOps]; omega, by simp only [toTcpOps]; omega⟩
  | tcpReceived hops =>
    refine leaks_of_accounted rfl (.inl ⟨⟨hlive, ?_, hb⟩, hends⟩)
    simpa [toStreamOps, hops] using ha
  | tcpReadFailed hops =>
    refine leaks_of_accounted rfl (.inl ⟨⟨hlive, ?_, hb⟩, hends⟩)
    simpa [toStreamOps, hops] using ha
  | @tcpReaden ec rest hops =>
    rw [hops, List.length_cons] at ha
    have hidle : Counts { c with tcpReads := rest } 0 1 :=
      ⟨hlive, by simp only [toStreamOps]; omega, hb⟩
    have hleaks : leaksConnection c .tcpReaden = (c.readFails ec && c.streamReadEnded) := by
      simp only [leaksConnection, hops]
    rw [hleaks]
    exact hidle.tcpReaden ec
  | tcpSent hops =>
    refine leaks_of_accounted rfl (.inl ⟨⟨hlive, ha, ?_⟩, hends⟩)
    simpa [toTcpOps, hops] using hb
  | tcpWriteFailed hops =>
    refine leaks_of_accounted rfl (.inl ⟨⟨hlive, ha, ?_⟩, hends⟩)
    simpa [toTcpOps, hops] using hb
  | tcpWritten hops =>
    rw [hops, List.length_cons] at hb
    apply leaks_of_accounted rfl
    apply Counts.tcpWritten
    exact ⟨hlive, ha, by simp only [toTcpOps]; omega⟩
  | streamReceived hops =>
    apply leaks_of_accounted rfl
    apply Counts.streamReaden
    exact ⟨hlive, ha, by simp only [toTcpOps]; omega⟩
  | streamReadFailed hops =>
    apply leaks_of_accounted rfl
    apply Counts.streamReaden
    exact ⟨hlive, ha, by simp only [toTcpOps]; omega⟩
  | streamTaken hops => exact leaks_of_accounted rfl (.inl ⟨⟨hlive, ha, hb⟩, hends⟩)
  | streamWritten hops =>
    apply leaks_of_accounted rfl
    apply Counts.streamWritten
    exact ⟨hlive, by simp only [toStreamOps]; omega, hb⟩
  | streamWriteFailed hops =>
    apply leaks_of_accounted rfl
    apply Counts.streamWritten
    exact ⟨hlive, by simp only [toStreamOps]; omega, hb⟩
  | streamClosed hops =>
    apply leaks_of_accounted rfl
    apply Counts.streamClosed
    exact ⟨hlive, by simp only [toStreamOps]; omega, hb⟩
  | stop =>
    have hcounts : Counts { c with service := none } 1 1 := ⟨hlive, ha, hb⟩
    exact leaks_of_accounted rfl (.inl ⟨hcounts.abort, hends⟩)

/-- A leaked connection can only be stopped, and stays leaked. -/
theorem leaked_step (h : Leaked c) (hm : TunnelMove c e c') : Leaked c' := by
  obtain ⟨-, rfl⟩ := hm.outstanding h.outstanding_eq
  obtain ⟨hlive, ha, hb⟩ := h.counts
  have hcounts : Counts { c with service := none } 1 1 := ⟨hlive, ha, hb⟩
  exact ⟨hcounts.abort, h.tcp, h.stream, rfl⟩

/-- A connection that takes a step has one thing going on in each direction. -/
theorem counts_of_move (h : Accounted c ∨ Leaked c) (hm : TunnelMove c e c') : Counts c 1 1 := by
  rcases h with (⟨hcounts, -⟩ | hfreed) | hleaked
  · exact hcounts
  · exact absurd hfreed.unlisted (hm.outstanding hfreed.idle).1
  · exact hleaked.counts

theorem accounted_or_leaked_step (h : Accounted c ∨ Leaked c) (hm : TunnelMove c e c') :
    Accounted c' ∨ Leaked c' := by
  rcases h with haccounted | hleaked
  · cases hleak : leaksConnection c e with
    | false => exact .inl ((accounted_step haccounted hm).1 hleak)
    | true => exact .inr ((accounted_step haccounted hm).2 hleak)
  · exact .inr (leaked_step hleaked hm)

end NabtoDevice
