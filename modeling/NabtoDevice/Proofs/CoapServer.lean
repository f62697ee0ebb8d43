import NabtoDevice.Sanity.CoapServer

/-! The flag `isSending` of the CoAP server and the send context it stands for. The flag is
set before `async_send_data`, which refuses to send on a closing connection; then no
callback comes that clears it, and nothing is sent on any connection again. -/

namespace NabtoDevice

variable {cc : CoapConnection} {ctx ctx' : CoapServer} {e : CoapServerEvent}

/-! ### The flag -/

variable {c : ℕ} {cc' : CoapConnection}

namespace CoapServer

theorem FlagMatches.eq_one (h : ctx.FlagMatches) (hcc : ctx.connections[c]? = some cc)
    (hpos : 0 < cc.coapSends.count true) : cc.coapSends.count true = 1 ∧ ctx.outstanding = 1 := by
  have hsplit := Tally.sum_map_split (fun cc : CoapConnection => cc.coapSends.count true) hcc
  unfold FlagMatches outstanding at *
  split_ifs at h <;> omega

/-- The connection at `c` gets other entries, of which as many are of the CoAP server. -/
theorem FlagMatches.set (h : ctx.FlagMatches) (hcc : ctx.connections[c]? = some cc)
    (hcount : cc'.coapSends.count true = cc.coapSends.count true) :
    FlagMatches ⟨ctx.isSending, ctx.connections.set c cc'⟩ := by
  have hset := outstanding_set hcc cc' ctx.isSending
  unfold FlagMatches at h
  show _ = if ctx.isSending then 1 else 0
  omega

theorem FlagMatches.set_idle (h : ctx.FlagMatches) (hcc : ctx.connections[c]? = some cc)
    (hpos : 0 < cc.coapSends.count true)
    (hcount : cc'.coapSends.count true + 1 = cc.coapSends.count true) :
    FlagMatches ⟨false, ctx.connections.set c cc'⟩ := by
  obtain ⟨-, hone⟩ := h.eq_one hcc hpos
  have hset := outstanding_set hcc cc' false
  show _ = 0
  omega

/-- A connection is destroyed. If its list holds the send context of the CoAP server, the
callback comes, and the next packet must not be for another closing connection. -/
theorem flush_matches_iff {removed : CoapConnection} {answers : List CoapServerNextEvent}
    (h : ctx.FlagMatches)
    (hcc : ctx.connections[c]? = some cc) (hempty : removed.coapSends = [])
    (hforgotten : removed.inCoap = false) :
    (flush ⟨ctx.isSending, ctx.connections.set c removed⟩ cc.coapSends answers).FlagMatches ↔
      (cc.coapSends.contains true && ctx.refusesSend (fun d => d ≠ c && ctx.knows d) answers) =
        false := by
  have hremoved : removed.coapSends.count true = 0 := by rw [hempty, List.count_nil]
  rcases Nat.eq_zero_or_pos (cc.coapSends.count true) with hzero | hpos
  · have hcontains : cc.coapSends.contains true = false := by
      simpa [List.count_eq_zero] using hzero
    rw [flush_eq_self _ hzero, hcontains]
    exact ⟨fun _ => rfl, fun _ => h.set hcc (hremoved.trans hzero.symm)⟩
  · have hcontains : cc.coapSends.contains true = true := by simpa using List.count_pos_iff.mp hpos
    obtain ⟨hone, -⟩ := h.eq_one hcc hpos
    have hidle : FlagMatches ⟨false, ctx.connections.set c removed⟩ :=
      h.set_idle hcc hpos (by omega)
    rw [flush_eq_event _ hone, hcontains]
    refine event_matches_iff hidle ?_ ?_
    · funext d
      rw [knows_set hcc]
      by_cases hd : d = c <;> simp [hd, hforgotten]
    · intro d hd
      exact isClosing_set removed false (by simpa using (Bool.and_eq_true_iff.mp hd).1)

end CoapServer

def losesCallback (ctx : CoapServer) : CoapServerEvent → Bool
  | .openConnection .. => false
  | .connection c e answers => ctx.connections[c]?.any fun cc =>
    if destroys cc.conn e then
      cc.coapSends.contains true && ctx.refusesSend (fun d => d ≠ c && ctx.knows d) answers
    else if cc.callsBack e then ctx.refusesSend ctx.knows answers
    else
      (receivedData cc.conn e).any isCoapPacket && !ctx.isSending &&
        ctx.refusesSend (fun d => d = c || ctx.knows d) answers
  | .coapEvent answers => !ctx.isSending && ctx.refusesSend ctx.knows answers
  | .destroyConnection c answers => ctx.connections[c]?.any fun cc =>
    cc.coapSends.contains true && ctx.refusesSend (fun d => d ≠ c && ctx.knows d) answers

theorem CoapConnection.advance_count (cc : CoapConnection) (e : ClientConnectionEvent)
    (conn : NcClientConnection) :
    (cc.advance e conn).coapSends.count true + (if cc.callsBack e then 1 else 0) =
      cc.coapSends.count true := by
  unfold CoapConnection.advance CoapConnection.callsBack
  cases takesSend cc.conn e with
  | false => simp [List.count_append, List.count_replicate]
  | true =>
    cases hsends : cc.coapSends with
    | nil => rfl
    | cons send sends => cases send <;> simp

theorem connectionStep_matches_iff {e : ClientConnectionEvent} {conn : NcClientConnection}
    {answers : List CoapServerNextEvent} (h : ctx.FlagMatches) (hcc : ctx.connections[c]? = some cc)
    (hconn : clientConnectionStep cc.conn e = some conn) :
    (ctx.connectionStep c cc e conn answers).FlagMatches ↔
      losesCallback ctx (.connection c e answers) = false := by
  have hcount := cc.advance_count e conn
  rw [losesCallback, hcc, Option.any_some, CoapServer.connectionStep,
    (clientConnectionStep_sends hconn).1]
  split_ifs with hdestroys hcalls hcoap
  · unfold CoapServer.destroyConnection
    dsimp only
    exact CoapServer.flush_matches_iff h hcc rfl rfl
  · -- the callback of the send context that was taken
    rw [if_pos hcalls] at hcount
    have hstate := (state_of_takesSend hconn (Bool.and_eq_true_iff.mp hcalls).1).1
    have hidle : CoapServer.FlagMatches ⟨false, ctx.connections.set c (cc.advance e conn)⟩ :=
      h.set_idle hcc (by omega) hcount
    refine CoapServer.event_matches_iff hidle ?_ fun d _ =>
      CoapServer.isClosing_set_same hcc hstate _ d
    funext d
    rw [CoapServer.knows_set hcc]
    split_ifs with hd
    · simp [hd, CoapServer.knows, hcc, CoapConnection.advance]
    · rfl
  · -- the library is given a packet and now knows the connection
    rw [if_neg hcalls] at hcount
    obtain ⟨buffer, hdata, -⟩ := (Option.any_eq_true _ _).mp hcoap
    obtain ⟨hbefore, hafter⟩ := state_of_receivedData hconn hdata
    have hset : CoapServer.FlagMatches
        ⟨ctx.isSending, ctx.connections.set c { cc.advance e conn with inCoap := true }⟩ :=
      h.set hcc hcount
    rw [hcoap, Bool.true_and]
    refine CoapServer.event_matches_iff hset ?_ fun d _ =>
      CoapServer.isClosing_set_same hcc (hafter.trans hbefore.symm) _ d
    funext d
    rw [CoapServer.knows_set hcc]
    split_ifs with hd <;> simp [hd]
  · rw [if_neg hcalls] at hcount
    refine ⟨fun _ => by simp [hcoap], fun _ => h.set hcc hcount⟩

theorem coapServerStep_iff (h : ctx.FlagMatches) (hs : coapServerStep ctx e = some ctx') :
    ctx'.FlagMatches ↔ losesCallback ctx e = false := by
  cases e with
  | openConnection id sock ep env =>
    cases hs
    refine ⟨fun _ => rfl, fun _ => ?_⟩
    simpa [CoapServer.FlagMatches, CoapServer.outstanding] using h
  | connection c e answers =>
    obtain ⟨cc, hcc, hs⟩ := Option.bind_eq_some_iff.mp hs
    obtain ⟨conn, hconn, rfl⟩ := Option.map_eq_some_iff.mp hs
    exact connectionStep_matches_iff h hcc hconn
  | coapEvent answers =>
    cases hs
    exact CoapServer.event_matches_iff h rfl fun _ _ => rfl
  | destroyConnection c answers =>
    obtain ⟨cc, hcc, hs⟩ := Option.bind_eq_some_iff.mp hs
    split_ifs at hs
    cases hs
    rw [losesCallback, hcc]
    exact CoapServer.flush_matches_iff h hcc rfl rfl

/-- In a run the flag matches the outstanding send throughout exactly when no step sends on
a connection that the DTLS layer is closing and the CoAP library still knows. -/
theorem coapServer_flag_iff {evs : List CoapServerEvent} {s : CoapServer}
    (h : coapServer.Run evs s) :
    (∀ t, coapServer.Visits evs t → t.FlagMatches) ↔
      ∀ t e, coapServer.Takes evs t e → losesCallback t e = false := by
  have hinit : coapServer.init.FlagMatches := rfl
  refine h.good_iff_takes (fun _ => True) CoapServer.FlagMatches _ trivial hinit ?_
  intro ctx e ctx' _ hmatches hs
  exact ⟨coapServerStep_iff hmatches hs, fun _ => trivial⟩

def connectionId (k : UInt8) : List UInt8 := 240 :: List.replicate 14 k ++ [0]

def coapRequest (c : ℕ) (k : UInt8) (answers : List CoapServerNextEvent) : CoapServerEvent :=
  .connection c (.packet 0 c (connectionId k) { read := .data 1 [atCoapStart] }) answers

def twoClients : List CoapServerEvent :=
  [.openConnection (connectionId 1) 0 0 { handshake := .done },
    .openConnection (connectionId 2) 0 1 { handshake := .done },
    coapRequest 0 1 [.nothing], coapRequest 1 2 [.nothing]]

def twoResponses : List CoapServerEvent :=
  twoClients ++ [.coapEvent [.send (some 0) true], .coapEvent [.send (some 1) true],
    .connection 0 (.startSend {}) [.send (some 1) true],
    .connection 0 (.packet 0 0 (connectionId 1) { read := .closeNotify }) [],
    .connection 0 (.deferredEvent {}) [], .connection 1 (.startSend {}) [.nothing]]

theorem coapServer_flag_twoResponses :
    (∃ s, coapServer.Run twoResponses s) ∧
      ∀ t, coapServer.Visits twoResponses t → t.FlagMatches := by
  have hr : coapServer.Run twoResponses _ := Machine.run_of_exec rfl
  refine ⟨⟨_, hr⟩, (coapServer_flag_iff hr).mpr fun t e ht => ?_⟩
  exact Machine.takes_eq_false_of_allTaken (by decide +kernel) ht

/-! ### After a refused send -/

namespace CoapServer

def Blocked (ctx : CoapServer) : Prop := ctx.isSending = true ∧ ctx.outstanding = 0

theorem Blocked.count_eq (h : ctx.Blocked) (hcc : ctx.connections[c]? = some cc) :
    cc.coapSends.count true = 0 := by
  have hsplit := Tally.sum_map_split (fun cc : CoapConnection => cc.coapSends.count true) hcc
  have hzero := h.2
  unfold outstanding at hzero
  omega

theorem Blocked.set (h : ctx.Blocked) (hcc : ctx.connections[c]? = some cc)
    (hcount : cc'.coapSends.count true = 0) :
    Blocked ⟨ctx.isSending, ctx.connections.set c cc'⟩ := by
  refine ⟨h.1, ?_⟩
  have hset := outstanding_set hcc cc' ctx.isSending
  have hzero := h.2
  have hcount' := h.count_eq hcc
  omega

theorem Blocked.event (h : ctx.Blocked) (answers : List CoapServerNextEvent) :
    (ctx.event answers).1.Blocked := by
  rw [event_sending h.1]
  exact h

theorem Blocked.step (h : ctx.Blocked) (hs : coapServerStep ctx e = some ctx') : ctx'.Blocked := by
  cases e with
  | openConnection id sock ep env =>
    cases hs
    exact ⟨h.1, by simpa [outstanding] using h.2⟩
  | connection c e answers =>
    obtain ⟨cc, hcc, hs⟩ := Option.bind_eq_some_iff.mp hs
    obtain ⟨conn, -, rfl⟩ := Option.map_eq_some_iff.mp hs
    have hzero := h.count_eq hcc
    have hcount := cc.advance_count e conn
    unfold connectionStep
    split_ifs with hdestroyed hcalls
    · unfold destroyConnection
      rw [flush_eq_self _ hzero]
      exact h.set hcc rfl
    · rw [if_pos hcalls] at hcount
      omega
    · refine Blocked.event (h.set hcc ?_) answers
      show (cc.advance e conn).coapSends.count true = 0
      omega
    · exact h.set hcc (by omega)
  | coapEvent answers =>
    cases hs
    exact h.event answers
  | destroyConnection c answers =>
    obtain ⟨cc, hcc, hs⟩ := Option.bind_eq_some_iff.mp hs
    split_ifs at hs
    cases hs
    unfold destroyConnection
    rw [flush_eq_self _ (h.count_eq hcc)]
    exact h.set hcc rfl

end CoapServer

/-- A blocked CoAP server stays blocked, whatever happens to its connections. -/
theorem coapServer_blocked {evs more : List CoapServerEvent} {s t : CoapServer}
    (hs : coapServer.Run evs s) (hblocked : s.Blocked) (ht : coapServer.Run (evs ++ more) t) :
    t.Blocked :=
  Machine.Run.invariant_from CoapServer.Blocked (fun _ _ _ h hstep => h.step hstep) hs hblocked ht

/-- The first client closes its connection; its response becomes ready before the
connection is removed, and the second one after that. -/
def refusedSend : List CoapServerEvent :=
  twoClients ++ [.connection 0 (.packet 0 0 (connectionId 1) { read := .closeNotify }) [],
    .coapEvent [.send (some 0) true], .connection 0 (.deferredEvent {}) [],
    .coapEvent [.send (some 1) true]]

/-- The second client's connection is open, but the flag stays set with nothing sent. -/
theorem refused_send_blocks_coapServer :
    ∃ s, coapServer.Run refusedSend s ∧ ¬ s.FlagMatches ∧
      s.knows 1 = true ∧ s.isClosing 1 = false ∧
      ∀ more t, coapServer.Run (refusedSend ++ more) t →
        t.isSending = true ∧ t.outstanding = 0 := by
  have hr : coapServer.Run refusedSend _ := Machine.run_of_exec rfl
  refine ⟨_, hr, by decide +kernel, by decide +kernel, by decide +kernel, fun more t ht => ?_⟩
  exact coapServer_blocked hr ⟨by decide +kernel, by decide +kernel⟩ ht

end NabtoDevice
