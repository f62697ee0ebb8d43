import NabtoDevice.Lib.Machine
import NabtoDevice.Proofs.ClientConnection
import NabtoDevice.Spec.OpenedConnection
import Mathlib.Tactic.Common

/-! A client connection is destroyed once. Both ways to the destructor are held back while
DTLS is sending, so no UDP send is outstanding then, and the destructor takes away
everything else that could bring another event. -/

namespace NabtoDevice

structure SendView.Bounded (v : SendView) : Prop where
  sending : v.sending = v.sentCb
  outstanding : v.udpSends.length ≤ if v.sentCb then 1 else 0
  closing : v.deferredEventEvent = true → v.deferredEvent = .closed → v.state = .closing

theorem bounded_iff_rests {conn : NcClientConnection} : conn.sendView.Bounded ↔ Rests False conn :=
  ⟨fun h => ⟨⟨h.sending, h.outstanding, False.elim, h.closing⟩, False.elim⟩,
    fun h => ⟨h.counted.sending, h.counted.outstanding, h.counted.closing⟩⟩

variable {conn : NcClientConnection}

/-- A step runs the destructor exactly if it delivers `CLOSED` or calls the close callback. -/
theorem destroys_eq (conn : NcClientConnection) (e : ClientConnectionEvent) :
    (destroys conn e).toNat = (deliversClosed conn e).toNat + (callsCloseCb conn e).toNat := by
  cases e with
  | deferredEvent env | closeEvent => simp [destroys, deliversClosed, callsCloseCb]
  | _ => rfl

theorem sentCb_of_destroyed {conn' : NcClientConnection} {e : ClientConnectionEvent}
    (hs : clientConnectionStep conn e = some conn') (hdestroyed : conn'.destroyed = true) :
    conn'.sentCb = false := by
  have hdestroys : destroys conn e = true := (clientConnectionStep_sends hs).1 ▸ hdestroyed
  cases clientConnectionCase_of_step hs with
  | deferredEvent env =>
    simp only [destroys, Bool.and_eq_true, Bool.not_eq_true', Bool.and_eq_false_iff,
      decide_eq_false_iff_not, decide_eq_true_eq] at hdestroys
    obtain ⟨hfree, hevent⟩ := hdestroys
    have hnow : ¬ (conn.dtls.state = .closing ∧ conn.dtls.sending = true) := by
      rintro ⟨hclosing, hsending⟩
      rcases hfree with hne | hne
      · exact hne hclosing
      · cases hne.symm.trans hsending
    rw [nmMbedtlsSrvDoEventCallback, if_neg hnow, hevent]
    rfl
  | closeEvent =>
    simp only [destroys, Bool.and_eq_true, Bool.not_eq_true'] at hdestroys
    obtain ⟨hsending, hcb⟩ := hdestroys
    unfold nmMbedtlsSrvEventClose
    dsimp only
    rw [if_neg (by simp [hsending]), if_pos hcb]
    rfl
  | packet | timer | startSend | close | keepAliveEvent | sendData | udpDone => cases hdestroys

structure OpenedConnection.Lives (c : OpenedConnection) : Prop where
  destroys : c.destroys = 0
  closedEvents : c.closedEvents = 0
  closeCbs : c.closeCbs = 0
  bounded : c.conn.sendView.Bounded

/-- The connection has been destroyed by its one closing event, and nothing comes to it any more. -/
structure OpenedConnection.Gone (c : OpenedConnection) : Prop where
  destroys : c.destroys = 1
  once : c.closedEvents + c.closeCbs = 1
  silent : ∀ e, openedConnectionStep c e = none

/-- A connection whose events have been taken away and for which no UDP send is outstanding. -/
theorem silent_of_destroyConnection (c : OpenedConnection) (hudp : conn.udpSends = [])
    (e : ClientConnectionEvent × Bool) :
    openedConnectionStep (c.destroyConnection conn) e = none := by
  obtain ⟨e, armed⟩ := e
  cases e with
  | udpDone ok env =>
    simp [openedConnectionStep, clientConnectionStep, OpenedConnection.destroyConnection, hudp]
  | _ => rfl

theorem lives_step {c c' : OpenedConnection} {e : ClientConnectionEvent × Bool} (h : c.Lives)
    (hs : openedConnectionStep c e = some c') : c'.Lives ∨ c'.Gone := by
  obtain ⟨-, hs⟩ := Option.ite_none_right_eq_some.mp hs
  obtain ⟨conn, hconn, hc'⟩ := Option.map_eq_some_iff.mp hs
  have hopen : Rests False { c.conn with destroyed := false } :=
    (bounded_iff_rests.mp h.bounded).of_view rfl
  have hrests : Rests False conn := clientConnectionStep_rests hopen hconn False.elim
  have hdestroys : conn.destroyed = destroys c.conn e.1 := (clientConnectionStep_sends hconn).1
  have hcount := destroys_eq c.conn e.1
  dsimp only at hc'
  split_ifs at hc' with hdestroyed
  · right
    rw [← hdestroys, hdestroyed] at hcount
    have hudp : conn.udpSends = [] :=
      hrests.counted.idle (hrests.counted.sending.trans (sentCb_of_destroyed hconn hdestroyed))
    subst hc'
    refine ⟨?_, ?_, silent_of_destroyConnection _ hudp⟩
    · simp [OpenedConnection.destroyConnection, h.destroys]
    · simp only [OpenedConnection.destroyConnection, h.closedEvents, h.closeCbs, Nat.zero_add]
      exact hcount.symm
  · left
    have hkept : destroys c.conn e.1 = false := by simpa [hdestroys] using hdestroyed
    rw [hkept, Bool.toNat_false] at hcount
    subst hc'
    refine ⟨h.destroys, ?_, ?_, bounded_iff_rests.mpr hrests⟩
    · simp only [h.closedEvents]
      omega
    · simp only [h.closeCbs]
      omega

/-- Over every run of an opened connection, `CLOSED` deliveries and close callbacks are
together at most one, the destructor runs once for each of them, and after it has run no
event comes to the connection any more. -/
theorem connection_destroyed_once (id : List UInt8) (sock ep : ℕ) (env : SrvEnv) (timer : Bool)
    {evs : List (ClientConnectionEvent × Bool)} {s : OpenedConnection}
    (h : (openedConnection id sock ep env timer).Run evs s) :
    s.closedEvents + s.closeCbs ≤ 1 ∧ s.destroys = s.closedEvents + s.closeCbs ∧
      (0 < s.destroys → ∀ e, openedConnectionStep s e = none) := by
  have hlife : s.Lives ∨ s.Gone := by
    induction h with
    | nil => exact Or.inl ⟨rfl, rfl, rfl, bounded_iff_rests.mpr (open_rests id sock ep env)⟩
    | snoc _ hs ih =>
      rcases ih with hlives | hgone
      · exact lives_step hlives hs
      · exact absurd hs (by simp [openedConnection, hgone.silent])
  rcases hlife with hlives | hgone
  · have hnone := hlives.destroys
    have hevents := hlives.closedEvents
    have hcbs := hlives.closeCbs
    refine ⟨by omega, by omega, fun hpos => ?_⟩
    omega
  · have honce := hgone.once
    have hone := hgone.destroys
    exact ⟨by omega, by omega, fun _ => hgone.silent⟩

/-- A client is silent until the keep alive timeout; the close waits for its notify to be sent. -/
def keepAliveTimeoutRun : List ClientConnectionEvent :=
  connectedRun ++ List.replicate 31 (.keepAliveEvent {}) ++
    [.keepAliveEvent { sends := true }, .closeEvent, .udpDone true {}, .closeEvent]

theorem connection_destroyed_by_timeout :
    ∃ s, (openedConnection (List.replicate 15 240 ++ [1]) 0 0 {} true).Run
        (keepAliveTimeoutRun.map fun e => (e, true)) s ∧
      s.closeCbs = 1 ∧ s.closedEvents = 0 ∧ s.destroys = 1 ∧
        ∀ e, openedConnectionStep s e = none := by
  have hr : (openedConnection (List.replicate 15 240 ++ [1]) 0 0 {} true).Run
    (keepAliveTimeoutRun.map fun e => (e, true)) _ := Machine.run_of_exec rfl
  obtain ⟨-, hdestroys, hsilent⟩ :=
    connection_destroyed_once (List.replicate 15 240 ++ [1]) 0 0 {} true hr
  exact ⟨_, hr, by decide +kernel, by decide +kernel, hdestroys, hsilent (by decide +kernel)⟩

end NabtoDevice
