import NabtoDevice.Proofs.TcpTunnelConnection
import NabtoDevice.Sanity.TcpTunnel
import Mathlib.Algebra.BigOperators.Group.List.Basic
import Mathlib.Algebra.GroupWithZero.Nat

/-! The streams given to the tunnel services. A stream waits for its verdict, belongs to a
connection, or has been released, and every step hands it from one to the next. The exceptions are
the connections that cannot be initialised: without a socket the stream is in nobody's hands, and
without its completion events the connection is freed but stays in the list of its service. -/

namespace NabtoDevice

open NmTcpTunnelConnection NmTcpTunnels

/-! ## The share of a connection in a stream -/

namespace NmTcpTunnelConnection

variable {c c' : NmTcpTunnelConnection}

def holds (c : NmTcpTunnelConnection) (stream : ℕ) : Bool :=
  decide (c.frees = 0) && decide (c.stream = some stream)

def share (c : NmTcpTunnelConnection) (stream : ℕ) : ℕ :=
  c.releasedStreams.count stream + (c.holds stream).toNat

theorem count_toList (s : Option ℕ) (stream : ℕ) :
    s.toList.count stream = (decide (s = some stream)).toNat := by
  cases s with
  | none => rfl
  | some s => by_cases heq : s = stream <;> simp [heq]

theorem abort_share (hlive : c.frees = 0) (stream : ℕ) :
    c.abortConnection.share stream = c.share stream := by
  simp [share, holds, abortConnection, hlive, count_toList]

theorem theEnd_share (hlive : c.frees = 0) (stream : ℕ) :
    c.theEnd.share stream = c.share stream := by
  simp [share, holds, theEnd, free, hlive, count_toList]

theorem isEnded_share (hlive : c.frees = 0) (stream : ℕ) :
    c.isEnded.share stream = c.share stream := by
  unfold isEnded
  split_ifs
  · exact theEnd_share hlive stream
  · rfl

theorem endAbort_share (hlive : c.frees = 0) (stream : ℕ) :
    c.abortConnection.isEnded.share stream = c.share stream := by
  rw [← abort_share hlive stream]
  apply isEnded_share
  exact hlive

theorem closeStream_share (hlive : c.frees = 0) (stream : ℕ) :
    c.closeStream.share stream = c.share stream := by
  unfold closeStream
  split
  · rfl
  · apply isEnded_share
    exact hlive

theorem tcpReaden_share (hlive : c.frees = 0) (ec : NpErrorCode) (stream : ℕ) :
    (c.tcpReaden ec).share stream = c.share stream := by
  unfold tcpReaden
  split_ifs
  · exact closeStream_share hlive stream
  · apply abort_share
    exact hlive
  · unfold startStreamWrite
    split <;> rfl

theorem streamWritten_share (hlive : c.frees = 0) (ec : NpErrorCode) (stream : ℕ) :
    (c.streamWritten ec).share stream = c.share stream := by
  unfold streamWritten
  split_ifs
  · apply endAbort_share
    exact hlive
  · rfl

theorem startStreamRead_share (c : NmTcpTunnelConnection) (stream : ℕ) :
    c.startStreamRead.share stream = c.share stream := by
  unfold startStreamRead
  split <;> rfl

theorem streamReaden_share (hlive : c.frees = 0) (ec : NpErrorCode) (stream : ℕ) :
    (c.streamReaden ec).share stream = c.share stream := by
  unfold streamReaden
  split_ifs
  · apply isEnded_share
    exact hlive
  · apply endAbort_share
    exact hlive
  · rfl

theorem tcpWritten_share (hlive : c.frees = 0) (ec : NpErrorCode) (stream : ℕ) :
    (c.tcpWritten ec).share stream = c.share stream := by
  unfold tcpWritten
  split_ifs
  · apply endAbort_share
    exact hlive
  · exact startStreamRead_share c stream

theorem connectCallback_share (hlive : c.frees = 0) (ec : NpErrorCode) (stream : ℕ) :
    (c.connectCallback ec).share stream = c.share stream := by
  unfold connectCallback
  split_ifs
  · exact theEnd_share hlive stream
  · exact startStreamRead_share _ stream

end NmTcpTunnelConnection

variable {c : NmTcpTunnelConnection}

/-- A live connection that takes a step keeps its share. -/
theorem share_step {c' : NmTcpTunnelConnection} {e : TunnelConnectionEvent} (hlive : c.frees = 0)
    (hm : TunnelMove c e c') (stream : ℕ) : c'.share stream = c.share stream := by
  cases hm with
  | connectResult | tcpReceived | tcpReadFailed | tcpSent | tcpWriteFailed | streamTaken => rfl
  | connectCallback =>
    apply connectCallback_share
    exact hlive
  | tcpReaden =>
    apply tcpReaden_share
    exact hlive
  | tcpWritten =>
    apply tcpWritten_share
    exact hlive
  | streamReceived | streamReadFailed =>
    apply streamReaden_share
    exact hlive
  | streamWritten | streamWriteFailed =>
    apply streamWritten_share
    exact hlive
  | streamClosed =>
    apply isEnded_share
    exact hlive
  | stop =>
    apply abort_share
    exact hlive

/-! ## The shares of a stream -/

variable {t t' : NmTcpTunnels} {e : TcpTunnelEvent}

def streamReleases (t : NmTcpTunnels) (stream : ℕ) : ℕ :=
  t.released.count stream + (t.connections.map fun c => c.releasedStreams.count stream).sum

/-- Who has a stream: the requests that wait for a verdict and the connections. -/
def streamOwners (t : NmTcpTunnels) (stream : ℕ) : ℕ :=
  (t.streamRequests.map TunnelStreamRequest.stream).count stream +
    t.connections.countP fun c => c.holds stream

def streamShares (t : NmTcpTunnels) (stream : ℕ) : ℕ :=
  t.released.count stream + (t.streamRequests.map TunnelStreamRequest.stream).count stream +
    (t.connections.map fun c => c.share stream).sum

theorem sum_share (l : List NmTcpTunnelConnection) (stream : ℕ) :
    (l.map fun c => c.share stream).sum =
      (l.map fun c => c.releasedStreams.count stream).sum + l.countP fun c => c.holds stream := by
  induction l with
  | nil => rfl
  | cons c l ih =>
    rw [List.map_cons, List.sum_cons, ih, List.map_cons, List.sum_cons, List.countP_cons, share]
    cases c.holds stream with
    | false =>
      simp only [Bool.toNat_false, Bool.false_eq_true, if_false]
      omega
    | true =>
      simp only [Bool.toNat_true, if_true]
      omega

theorem streamReleases_add_owners (t : NmTcpTunnels) (stream : ℕ) :
    streamReleases t stream + streamOwners t stream = streamShares t stream := by
  unfold streamReleases streamOwners streamShares
  rw [sum_share]
  omega

def TunnelsQuiet (t : NmTcpTunnels) : Prop :=
  t.streamRequests = [] ∧ ∀ c ∈ t.connections, c.outstanding = 0 ∧ c.nullCalls = []

/-- Every stream has one owner or was released once, and in the end was released once; and the lists
of the services hold no connection that was freed. -/
structure StreamsReleased (t : NmTcpTunnels) : Prop where
  once : ∀ stream < t.offered, streamReleases t stream + streamOwners t stream = 1
  released_of_quiet : TunnelsQuiet t → ∀ stream < t.offered, streamReleases t stream = 1
  listed : ∀ c ∈ t.connections, c.service ≠ none → c.frees = 0

structure StreamsInv (t : NmTcpTunnels) : Prop where
  connections : ∀ c ∈ t.connections, Accounted c ∨ Leaked c
  counted : ∀ stream, streamShares t stream = if stream < t.offered then 1 else 0

theorem live_of_listed (h : Accounted c ∨ Leaked c) (hlisted : c.service ≠ none) : c.frees = 0 := by
  rcases h with (⟨hcounts, -⟩ | hfreed) | hleaked
  · exact hcounts.live
  · exact absurd hfreed.unlisted hlisted
  · exact hleaked.counts.live

/-- A connection with nothing outstanding has let its stream go. -/
theorem holds_of_idle (h : Accounted c ∨ Leaked c) (hidle : c.outstanding = 0)
    (hnull : c.nullCalls = []) (stream : ℕ) : c.holds stream = false := by
  rcases h with haccounted | hleaked
  · have hfreed := freedWhenIdle_of_accounted haccounted hnull
    rw [FreedWhenIdle, if_pos hidle] at hfreed
    simp [holds, hfreed]
  · simp [holds, hleaked.aborted]

theorem StreamsInv.released (h : StreamsInv t) : StreamsReleased t where
  once stream hlt := by rw [streamReleases_add_owners, h.counted, if_pos hlt]
  released_of_quiet hquiet stream hlt := by
    have hall : streamReleases t stream + streamOwners t stream = 1 := by
      rw [streamReleases_add_owners, h.counted, if_pos hlt]
    have hnone : (t.connections.countP fun c => c.holds stream) = 0 := by
      rw [List.countP_eq_zero]
      intro c hc
      obtain ⟨hidle, hnull⟩ := hquiet.2 c hc
      simp [holds_of_idle (h.connections c hc) hidle hnull]
    have howners : streamOwners t stream = 0 := by
      unfold streamOwners
      rw [hnone, hquiet.1]
      rfl
    omega
  listed c hc hlisted := live_of_listed (h.connections c hc) hlisted

/-! ## The steps -/

theorem StreamsInv.of_same (h : StreamsInv t) (hreleased : t'.released = t.released)
    (hrequests : t'.streamRequests = t.streamRequests)
    (hconnections : t'.connections = t.connections)
    (hoffered : t'.offered = t.offered) : StreamsInv t' := by
  refine ⟨hconnections ▸ h.connections, fun stream => ?_⟩
  rw [hoffered, ← h.counted stream]
  unfold streamShares
  rw [hreleased, hrequests, hconnections]

theorem StreamsInv.of_connections (h : StreamsInv t) {cs : List NmTcpTunnelConnection}
    (hall : ∀ c ∈ cs, Accounted c ∨ Leaked c)
    (hshares : ∀ stream, cs.map (fun c => c.share stream) =
      t.connections.map fun c => c.share stream) :
    StreamsInv { t with connections := cs } := by
  refine ⟨hall, fun stream => ?_⟩
  rw [← h.counted stream]
  unfold streamShares
  rw [hshares stream]

theorem streamShares_releaseStream (t : NmTcpTunnels) (s stream : ℕ) :
    streamShares (t.releaseStream s) stream = streamShares t stream + [s].count stream := by
  simp only [streamShares, releaseStream, List.count_append]
  omega

theorem streamShares_connection (t : NmTcpTunnels) (c : NmTcpTunnelConnection) (stream : ℕ) :
    streamShares { t with connections := t.connections ++ [c] } stream =
      streamShares t stream + c.share stream := by
  simp only [streamShares, List.map_append, List.sum_append, List.map_singleton, List.sum_singleton]
  omega

theorem streamShares_request (t : NmTcpTunnels) (r : TunnelStreamRequest) (stream : ℕ) :
    streamShares { t with streamRequests := t.streamRequests ++ [r] } stream =
      streamShares t stream + [r.stream].count stream := by
  simp only [streamShares, List.map_append, List.map_singleton, List.count_append]
  omega

variable {i : ℕ} {r : TunnelStreamRequest}

theorem streamShares_eraseIdx (hr : t.streamRequests[i]? = some r) (stream : ℕ) :
    streamShares { t with streamRequests := t.streamRequests.eraseIdx i } stream +
      [r.stream].count stream =
      streamShares t stream := by
  obtain ⟨hi, rfl⟩ := List.getElem?_eq_some_iff.mp hr
  have hperm := (List.getElem_cons_eraseIdx_perm hi).map TunnelStreamRequest.stream
  have hcount := hperm.count_eq stream
  rw [List.map_cons, ← List.singleton_append, List.count_append] at hcount
  unfold streamShares
  dsimp only
  omega

theorem share_free (hfresh : c.releasedStreams = []) (stream : ℕ) :
    c.free.share stream = c.stream.toList.count stream := by
  simp [share, holds, free, hfresh]

theorem share_initialised (service s : ℕ) (address : NpIpAddress) (port : UInt16) (stream : ℕ) :
    (initialisedConnection service s address port).start.share stream = [s].count stream := by
  have hcount := count_toList (some s) stream
  rw [Option.toList_some] at hcount
  rw [hcount]
  simp [share, holds, initialisedConnection, start, startConnect]

theorem StreamsInv.streamListenerCallback (h : StreamsInv t) (service : NmTcpTunnelService)
    (authorization : Bool) :
    StreamsInv (t.serviceStreamListenerCallback service authorization) := by
  have hnew (stream : ℕ) :
      streamShares t stream + [t.offered].count stream = if stream < t.offered + 1 then 1
        else 0 := by
    rw [h.counted, List.count_singleton]
    simp only [beq_iff_eq]
    split_ifs <;> omega
  unfold serviceStreamListenerCallback
  dsimp only
  split_ifs
  · refine ⟨h.connections, fun stream => ?_⟩
    exact (streamShares_request { t with offered := t.offered + 1 } _ stream).trans (hnew stream)
  · refine ⟨h.connections, fun stream => ?_⟩
    exact (streamShares_releaseStream { t with offered := t.offered + 1 } _ stream).trans
      (hnew stream)

theorem StreamsInv.serviceDeinit (h : StreamsInv t) (service : NmTcpTunnelService) :
    StreamsInv (t.serviceDeinit service) := by
  refine h.of_connections (fun c hc => ?_) fun stream => ?_
  · obtain ⟨d, hd, rfl⟩ := List.mem_map.mp hc
    split_ifs with hlisted
    · exact accounted_or_leaked_step (h.connections d hd) (.stop (by simp [hlisted]))
    · exact h.connections d hd
  · rw [List.map_map]
    refine List.map_congr_left fun c hc => ?_
    rw [Function.comp_apply]
    split_ifs with hlisted
    · have hlive : c.frees = 0 := live_of_listed (h.connections c hc) (by simp [hlisted])
      apply abort_share
      exact hlive
    · rfl

theorem StreamsInv.connection (h : StreamsInv t) {c' : NmTcpTunnelConnection}
    {e : TunnelConnectionEvent}
    (hc : t.connections[i]? = some c) (hs : tunnelConnectionStep c e = some c') :
    StreamsInv { t with connections := t.connections.set i c' } := by
  have hm := tunnelMove_of_step hs
  have hold := h.connections c (List.mem_of_getElem? hc)
  refine h.of_connections (fun d hd => ?_) fun stream => ?_
  · rcases List.mem_or_eq_of_mem_set hd with hd | rfl
    · exact h.connections d hd
    · exact accounted_or_leaked_step hold hm
  · have hsame : (t.connections.map fun c => c.share stream)[i]? = some (c'.share stream) := by
      rw [List.getElem?_map, hc, Option.map_some, share_step (counts_of_move hold hm).live hm]
    obtain ⟨hi, heq⟩ := List.getElem?_eq_some_iff.mp hsame
    rw [List.map_set, ← heq, List.set_getElem_self]

/-! ## The verdicts on the streams -/

def connectionInitFails (t : NmTcpTunnels) (e : TcpTunnelEvent) : Bool :=
  match e with
  | .streamVerdict i true env => t.streamRequests[i]?.any fun r =>
      (t.findServiceByWeakPtr r.serviceWeakPtr).isSome && env.fails
  | _ => false

theorem StreamsInv.not_released_of_half (h : StreamsInv t) (hr : t.streamRequests[i]? = some r)
    (hhalf : HalfInitialised c) :
    ¬ StreamsReleased { t with
      streamRequests := t.streamRequests.eraseIdx i, connections := t.connections ++
        [c.free] } := by
  intro hreleased
  rcases hhalf.left with hstream | hlisted
  · have herased := streamShares_eraseIdx hr r.stream
    have hbefore := h.counted r.stream
    rw [List.count_singleton_self] at herased
    have hoffered : r.stream < t.offered := by
      by_contra hlt
      rw [if_neg hlt] at hbefore
      omega
    have honce := hreleased.once r.stream hoffered
    have hshares := streamShares_connection
      { t with streamRequests := t.streamRequests.eraseIdx i } c.free r.stream
    rw [share_free hhalf.unreleased, hstream, Option.toList_none, List.count_nil] at hshares
    rw [streamReleases_add_owners, hshares] at honce
    rw [if_pos hoffered] at hbefore
    omega
  · have hfreed :=
      hreleased.listed c.free (List.mem_append_right _ (List.mem_singleton_self _)) hlisted
    simp [free, hhalf.live] at hfreed

theorem StreamsInv.verdict (h : StreamsInv t) (hr : t.streamRequests[i]? = some r) {allow : Bool}
    {env : ConnectionInitEnv}
    (hm : VerdictMove { t with streamRequests := t.streamRequests.eraseIdx i } r allow env t') :
    (connectionInitFails t (.streamVerdict i allow env) = false → StreamsInv t') ∧
      (connectionInitFails t (.streamVerdict i allow env) = true → ¬ StreamsReleased t') := by
  cases hm with
  | released hwhy =>
    have hfails : connectionInitFails t (.streamVerdict i allow env) = false := by
      rcases hwhy with hnone | rfl | hnew
      · have hnone' : t.findServiceByWeakPtr r.serviceWeakPtr = none := hnone
        cases allow <;> simp [connectionInitFails, hr, hnone']
      · rfl
      · cases allow <;> simp [connectionInitFails, hr, ConnectionInitEnv.fails, hnew]
    rw [hfails]
    refine ⟨fun _ => ⟨h.connections, fun stream => ?_⟩, nofun⟩
    rw [streamShares_releaseStream, streamShares_eraseIdx hr]
    exact h.counted stream
  | @connected s hfind hallow hok =>
    have hfails : connectionInitFails t (.streamVerdict i allow env) = false := by
      simp [connectionInitFails, hr, hallow, hok]
    rw [hfails]
    refine ⟨fun _ => ⟨fun c hc => ?_, fun stream => ?_⟩, nofun⟩
    · rcases List.mem_append.mp hc with hc | hc
      · exact h.connections c hc
      · rw [List.mem_singleton.mp hc]
        exact .inl accounted_start
    · rw [streamShares_connection, share_initialised, streamShares_eraseIdx hr]
      exact h.counted stream
  | @failed s c hfind hallow hfails hhalf =>
    have hfound : t.findServiceByWeakPtr r.serviceWeakPtr = some s := hfind
    have hbad : connectionInitFails t (.streamVerdict i allow env) = true := by
      simp [connectionInitFails, hr, hallow, hfound, hfails]
    rw [hbad]
    exact ⟨nofun, fun _ => h.not_released_of_half hr hhalf⟩

theorem streams_step (h : StreamsInv t) (hm : TunnelsMove t e t') :
    (connectionInitFails t e = false → StreamsInv t') ∧
      (connectionInitFails t e = true → ¬ StreamsReleased t') := by
  cases hm with
  | addRefused | removeRefused => exact ⟨fun _ => h, nofun⟩
  | added | coapRefused | coapWaits | coapAnswered =>
    exact ⟨fun _ => h.of_same rfl rfl rfl rfl, nofun⟩
  | removed => exact ⟨fun _ => (h.serviceDeinit _).of_same rfl rfl rfl rfl, nofun⟩
  | offered => exact ⟨fun _ => h.streamListenerCallback _ _, nofun⟩
  | verdict hr hm => exact h.verdict hr hm
  | connection hc hs => exact ⟨fun _ => h.connection hc hs, nofun⟩

theorem streamsInv_init : StreamsInv tcpTunnels.init :=
  ⟨fun _ hc => absurd hc List.not_mem_nil, fun _ => rfl⟩

/-- Every stream given to a service is released once and no freed connection stays in the list of
its service, exactly if every connection that could be allocated for a stream can be initialised. -/
theorem streams_released_iff {evs : List TcpTunnelEvent} (h : tcpTunnels.Run evs t) :
    (∀ a, tcpTunnels.Visits evs a → StreamsReleased a) ↔
      ∀ a e, tcpTunnels.Takes evs a e → connectionInitFails a e = false := by
  refine h.good_iff_takes StreamsInv StreamsReleased _ streamsInv_init streamsInv_init.released
    fun a e b ha _ hs => ?_
  obtain ⟨hkeeps, hfails⟩ := streams_step ha (tunnelsMove_of_step hs)
  refine ⟨⟨fun hreleased => ?_, fun hok => (hkeeps hok).released⟩, hkeeps⟩
  by_contra hbad
  exact hfails (Bool.not_eq_false _ ▸ hbad) hreleased

def fourStreams : List TcpTunnelEvent :=
  [.addService "ssh" "ssh" (some (.v4 [127, 0, 0, 1])) 22 (some 4000), .streamOffered 0 true,
    .streamOffered 0 true, .streamOffered 0 true, .streamOffered 0 true, .streamVerdict 0 true {},
    .connection 0 (.connectResult .unknown), .connection 0 .connectCallback,
    .streamVerdict 0 false {}, .streamVerdict 0 true {}, .removeService (some "ssh"),
    .streamVerdict 0 true {}, .connection 1 .connectCallback]

theorem four_streams_released :
    ∃ t, tcpTunnels.Run fourStreams t ∧ t.offered = 4 ∧
      ∀ stream < 4, streamReleases t stream = 1 := by
  obtain ⟨t, hr, hp⟩ := Machine.exists_run_of_exec (M := tcpTunnels)
    (p := fun t : NmTcpTunnels => decide (t.offered = 4 ∧ t.streamRequests = [] ∧
      ∀ c ∈ t.connections, c.outstanding = 0 ∧ c.nullCalls = [])) fourStreams (by decide +kernel)
  obtain ⟨hoffered, hquiet⟩ := of_decide_eq_true hp
  have hreleased := (streams_released_iff hr).mpr
    (fun a e ht => Machine.takes_eq_false_of_allTaken (by decide +kernel) ht) t hr.visits
  refine ⟨t, hr, hoffered, fun stream hlt => hreleased.released_of_quiet hquiet stream ?_⟩
  rw [hoffered]
  exact hlt

/-- Without a socket the stream is never released; without its completion events the connection is
freed and stays in the list, and removing the service releases its stream again. -/
theorem stream_of_failed_connection :
    (∃ t, tcpTunnels.Run
        [.addService "ssh" "ssh" (some (.v4 [127, 0, 0, 1])) 22 (some 4000), .streamOffered 0 true,
          .streamVerdict 0 true { tcpCreate := .outOfMemory }] t ∧
      t.offered = 1 ∧ streamReleases t 0 = 0 ∧ streamOwners t 0 = 0) ∧
    ∃ t c t', tcpTunnels.Run
        [.addService "ssh" "ssh" (some (.v4 [127, 0, 0, 1])) 22 (some 4000), .streamOffered 0 true,
          .streamVerdict 0 true { connectEvent := .outOfMemory }] t ∧
      t.connections = [c] ∧ c.frees = 1 ∧ c.service = some 0 ∧
      tcpTunnelsStep t (.removeService (some "ssh")) = some t' ∧ streamReleases t' 0 = 2 :=
  ⟨⟨_, Machine.run_of_exec rfl, rfl, rfl, rfl⟩,
    ⟨_, _, _, Machine.run_of_exec rfl, rfl, rfl, rfl, rfl, by decide +kernel⟩⟩

end NabtoDevice
