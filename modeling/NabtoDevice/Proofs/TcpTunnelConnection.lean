import NabtoDevice.Sanity.TcpTunnelConnection

/-! The life of a tunnel connection. After `abort_connection` the stream is NULL, and the
callbacks of the socket that go on with the stream do not look: a result that was posted before
the abort starts a stream operation on NULL. Without such a result, a connection is freed once,
when its last operation has called back, unless a read of the socket fails after the stream has
ended: the error branch of `tcp_readen` is the only one that does not call `is_ended`. -/

namespace NabtoDevice

open NmTcpTunnelConnection

variable {c c' : NmTcpTunnelConnection} {e : TunnelConnectionEvent}

/-! ## Stream operations on NULL -/

def tcpCallbackResult (c : NmTcpTunnelConnection) : TunnelConnectionEvent → Option NpErrorCode
  | .connectCallback => c.connects.head?.join
  | .tcpReaden => c.tcpReads.head?.join
  | .tcpWritten => c.tcpWrites.head?.join
  | _ => none

/-- A callback of the socket is told OK, with data if it is a read, and the connection is aborted.
-/
def okAfterAbort (c : NmTcpTunnelConnection) (e : TunnelConnectionEvent) : Bool :=
  c.stream.isNone && decide (tcpCallbackResult c e = some .ok) &&
    (decide (e ≠ .tcpReaden) || decide (c.readLength ≠ 0))

namespace NmTcpTunnelConnection

@[simp] theorem isEnded_nullCalls (c : NmTcpTunnelConnection) :
    c.isEnded.nullCalls = c.nullCalls := by
  unfold isEnded
  split_ifs <;> rfl

@[simp] theorem closeStream_nullCalls (c : NmTcpTunnelConnection) :
    c.closeStream.nullCalls = c.nullCalls := by
  unfold closeStream
  split
  · rfl
  · exact isEnded_nullCalls _

@[simp] theorem streamWritten_nullCalls (c : NmTcpTunnelConnection) (ec : NpErrorCode) :
    (c.streamWritten ec).nullCalls = c.nullCalls := by
  unfold streamWritten
  split_ifs
  · exact isEnded_nullCalls _
  · rfl

@[simp] theorem streamReaden_nullCalls (c : NmTcpTunnelConnection) (ec : NpErrorCode) :
    (c.streamReaden ec).nullCalls = c.nullCalls := by
  unfold streamReaden
  split_ifs
  · exact isEnded_nullCalls _
  · exact isEnded_nullCalls _
  · rfl

theorem startStreamRead_nullCalls (hnull : c.nullCalls = []) :
    c.startStreamRead.nullCalls = [] ↔ c.stream ≠ none := by
  unfold startStreamRead
  split
  · rename_i hstream
    simp [hnull, hstream]
  · rename_i hstream
    simp [hstream]

theorem startStreamWrite_nullCalls (hnull : c.nullCalls = []) (transferred : ℕ) :
    (c.startStreamWrite transferred).nullCalls = [] ↔ c.stream ≠ none := by
  unfold startStreamWrite
  split
  · rename_i hstream
    simp [hnull, hstream]
  · rename_i hstream
    simp [hstream]

theorem connectCallback_nullCalls (hnull : c.nullCalls = []) (ec : NpErrorCode) :
    (c.connectCallback ec).nullCalls = [] ↔ (ec = .ok → c.stream ≠ none) := by
  unfold connectCallback
  split_ifs with hec
  · simp [theEnd, free, hnull, hec]
  · rw [not_ne_iff.mp hec, forall_prop_of_true rfl]
    exact startStreamRead_nullCalls (c := c.startTcpRead) hnull

theorem tcpWritten_nullCalls (hnull : c.nullCalls = []) (ec : NpErrorCode) :
    (c.tcpWritten ec).nullCalls = [] ↔ (ec = .ok → c.stream ≠ none) := by
  unfold tcpWritten
  split_ifs with hec
  · simp [abortConnection, hnull, hec]
  · rw [not_ne_iff.mp hec, forall_prop_of_true rfl]
    exact startStreamRead_nullCalls hnull

theorem tcpReaden_nullCalls (hnull : c.nullCalls = []) (ec : NpErrorCode) :
    (c.tcpReaden ec).nullCalls = [] ↔ (ec = .ok → c.readLength ≠ 0 → c.stream ≠ none) := by
  unfold tcpReaden
  split_ifs with heof hec
  · simp only [closeStream_nullCalls, hnull, true_iff]
    rcases heof with hlength | heof
    · exact fun _ hne => absurd hlength hne
    · exact fun hok => absurd (heof.symm.trans hok) (by decide)
  · simp [abortConnection, hnull, hec]
  · rw [startStreamWrite_nullCalls hnull, not_ne_iff.mp hec, forall_prop_of_true rfl]
    exact ⟨fun h _ => h, fun h => h (not_or.mp heof).1⟩

end NmTcpTunnelConnection

theorem okAfterAbort_eq_false :
    okAfterAbort c e = false ↔
      (tcpCallbackResult c e = some .ok → (e = .tcpReaden → c.readLength ≠ 0) →
        c.stream ≠ none) := by
  unfold okAfterAbort
  cases c.stream with
  | some stream => simp
  | none => by_cases he : e = .tcpReaden <;> simp [he]

/-- A step starts an operation on NULL exactly if a callback is told OK after an abort. -/
theorem nullCalls_step (hs : tunnelConnectionStep c e = some c') :
    c'.nullCalls = [] ↔ okAfterAbort c e = false := by
  have hnull := nullCalls_of_step hs
  rw [okAfterAbort_eq_false]
  cases tunnelMove_of_step hs with
  | connectCallback hops => simp [connectCallback_nullCalls, hnull, tcpCallbackResult, hops]
  | tcpReaden hops => simp [tcpReaden_nullCalls, hnull, tcpCallbackResult, hops]
  | tcpWritten hops => simp [tcpWritten_nullCalls, hnull, tcpCallbackResult, hops]
  | connectResult | tcpReceived | tcpReadFailed | tcpSent | tcpWriteFailed | streamTaken =>
    simp [hnull, tcpCallbackResult]
  | streamReceived | streamReadFailed | streamWritten | streamWriteFailed =>
    simp [hnull, tcpCallbackResult]
  | streamClosed => simp [streamClosed, hnull, tcpCallbackResult]
  | stop => simp [stopFromManager, abortConnection, hnull, tcpCallbackResult]

section Runs

variable {service stream : ℕ} {address : NpIpAddress} {port : UInt16}
  {evs : List TunnelConnectionEvent}

/-- Over every run of a connection no stream operation is started on NULL, exactly if no callback of
the socket is told OK after the connection was aborted. -/
theorem null_stream_unused_iff (h : (tunnelConnection service stream address port).Run evs c) :
    (∀ t, (tunnelConnection service stream address port).Visits evs t → t.nullCalls = []) ↔
      ∀ t e, (tunnelConnection service stream address port).Takes evs t e →
        okAfterAbort t e = false := by
  refine h.good_iff_takes (fun _ => True) (fun t => t.nullCalls = []) _ trivial rfl
    fun t e t' _ _ hs => ?_
  exact ⟨nullCalls_step hs, fun _ => trivial⟩

def oneByteRun : List TunnelConnectionEvent :=
  [.connectResult .ok, .connectCallback, .tcpReceived [1], .tcpReaden, .streamTaken 1,
    .streamReadFailed .eof, .tcpReadFailed .eof, .tcpReaden, .streamClosed .ok]

theorem null_stream_unused_one_byte :
    ∃ t, (tunnelConnection 0 0 (.v4 []) 80).Run oneByteRun t ∧ t.nullCalls = [] := by
  have hrun : ∃ t, (tunnelConnection 0 0 (.v4 []) 80).Run oneByteRun t :=
    ⟨_, Machine.run_of_exec rfl⟩
  obtain ⟨t, hr⟩ := hrun
  refine ⟨t, hr, (null_stream_unused_iff hr).mpr ?_ t hr.visits⟩
  exact fun t e ht => Machine.takes_eq_false_of_allTaken (by decide +kernel) ht

/-- The socket has read a byte when the service is removed: its callback writes to the stream
NULL. -/
theorem null_stream_written :
    ∃ t, (tunnelConnection 0 0 (.v4 []) 80).Run
        [.connectResult .ok, .connectCallback, .tcpReceived [1], .stop, .tcpReaden] t ∧
      t.nullCalls = [.write] :=
  ⟨_, Machine.run_of_exec rfl, rfl⟩

/-! ## Freeing the connection -/

/-- The connection is freed once, and that exactly when no operation is outstanding. -/
def FreedWhenIdle (c : NmTcpTunnelConnection) : Prop := c.frees = if c.outstanding = 0 then 1 else 0

theorem freedWhenIdle_of_accounted (h : Accounted c) (hnull : c.nullCalls = []) :
    FreedWhenIdle c := by
  unfold FreedWhenIdle
  rcases h with ⟨⟨hlive, ha, hb⟩, hends⟩ | hfreed
  · rw [hlive, if_neg]
    intro hidle
    simp only [toStreamOps, toTcpOps, hnull, List.count_nil] at ha hb
    unfold outstanding at hidle
    -- with nothing outstanding both directions must have ended
    have htcp : c.tcpReadEnded.toNat = 1 := by omega
    have hstream : c.streamReadEnded.toNat = 1 := by omega
    rw [Bool.toNat_eq_one] at htcp hstream
    rw [htcp, hstream] at hends
    cases hends
  · rw [hfreed.once, if_pos hfreed.idle]

theorem not_freedWhenIdle_of_leaked (h : Leaked c) : ¬ FreedWhenIdle c := by
  unfold FreedWhenIdle
  rw [h.counts.live, if_pos h.outstanding_eq]
  decide

theorem not_accounted_of_leaked (h : Leaked c) : ¬ Accounted c := by
  rintro (⟨-, hends⟩ | hfreed)
  · simp [h.tcp, h.stream] at hends
  · have hlive := h.counts.live
    rw [hfreed.once] at hlive
    cases hlive

theorem accounted_start : Accounted (tunnelConnection service stream address port).init :=
  .inl ⟨⟨rfl, rfl, rfl⟩, rfl⟩

theorem accounted_or_leaked (h : (tunnelConnection service stream address port).Run evs c) :
    Accounted c ∨ Leaked c := by
  refine h.invariant (fun t => Accounted t ∨ Leaked t) (.inl accounted_start) fun t e t' ht hs => ?_
  exact accounted_or_leaked_step ht (tunnelMove_of_step hs)

theorem accounted_iff_takes (h : (tunnelConnection service stream address port).Run evs c) :
    (∀ t, (tunnelConnection service stream address port).Visits evs t → Accounted t) ↔
      ∀ t e, (tunnelConnection service stream address port).Takes evs t e →
        leaksConnection t e = false := by
  refine h.good_iff_takes
    (fun _ => True) Accounted _ trivial accounted_start fun t e t' _ ht hs => ?_
  obtain ⟨hkeeps, hleaks⟩ := accounted_step ht (tunnelMove_of_step hs)
  refine ⟨⟨fun haccounted => ?_, hkeeps⟩, fun _ => trivial⟩
  by_contra hleak
  exact not_accounted_of_leaked (hleaks (Bool.not_eq_false _ ▸ hleak)) haccounted

/-- In a run in which no callback of the socket is told OK after an abort, the connection is freed
once and exactly when no operation is outstanding, exactly if the socket does not fail to read after
the stream has ended. -/
theorem connection_freed_iff (h : (tunnelConnection service stream address port).Run evs c)
    (hok : ∀ t e, (tunnelConnection service stream address port).Takes evs t e →
      okAfterAbort t e = false) :
    (∀ t, (tunnelConnection service stream address port).Visits evs t → FreedWhenIdle t) ↔
      ∀ t e, (tunnelConnection service stream address port).Takes evs t e →
        leaksConnection t e = false := by
  rw [← accounted_iff_takes h]
  have hnull := (null_stream_unused_iff h).mpr hok
  refine forall₂_congr fun t hv => ⟨fun hfreed => ?_, fun haccounted => ?_⟩
  · obtain ⟨pre, -, hr⟩ := hv
    exact (accounted_or_leaked hr).resolve_right fun hleaked =>
      not_freedWhenIdle_of_leaked hleaked hfreed
  · exact freedWhenIdle_of_accounted haccounted (hnull t hv)

end Runs

theorem connection_freed_one_byte :
    ∃ t, (tunnelConnection 0 0 (.v4 []) 80).Run oneByteRun t ∧ t.outstanding = 0 ∧ t.frees = 1 := by
  have hrun : ∃ t, (tunnelConnection 0 0 (.v4 []) 80).Run oneByteRun t ∧ t.outstanding = 0 :=
    ⟨_, Machine.run_of_exec rfl, rfl⟩
  obtain ⟨t, hr, hidle⟩ := hrun
  have hfreed := (connection_freed_iff hr
    (fun t e ht => Machine.takes_eq_false_of_allTaken (by decide +kernel) ht)).mpr
    (fun t e ht => Machine.takes_eq_false_of_allTaken (by decide +kernel) ht) t hr.visits
  refine ⟨t, hr, hidle, ?_⟩
  rw [FreedWhenIdle, if_pos hidle] at hfreed
  exact hfreed

/-- The stream ends first, and then the peer resets the TCP connection. -/
theorem connection_leaked :
    ∃ t, (tunnelConnection 0 0 (.v4 []) 80).Run
        [.connectResult .ok, .connectCallback, .tcpReceived [1], .tcpReaden, .streamTaken 1,
          .streamReadFailed .eof, .tcpReadFailed .unknown, .tcpReaden] t ∧
      t.outstanding = 0 ∧ t.frees = 0 :=
  ⟨_, Machine.run_of_exec rfl, rfl, rfl⟩

end NabtoDevice
