import NabtoDevice.Proofs.DtlsClient
import NabtoDevice.Proofs.DtlsServer
import Mathlib.Tactic.Common

/-! How the owner of a DTLS connection learns that it has closed. Both modules enter
`CLOSING` in several places; each but one delivers an event, posts one or waits for a UDP
send that delivers it. -/

namespace NabtoDevice

/-! ### The client -/

variable {env : CliEnv} {e : DtlsClientEvent}

namespace DtlsClient

/-- The owner of a closed client that it did not destroy has got a terminal event, or the
completion of a UDP send will deliver one. -/
def Told (ctx : DtlsClient) : Prop :=
  ctx.state = .closing → ctx.destroyed = false →
    ctx.events.any (·.isTerminal) = true ∨ 0 < ctx.udpSends

def endsSilently (ctx : DtlsClient) (e : DtlsClientEvent) : Bool :=
  match ctx.entry e with
  | some (c, env) =>
    c.state = .data && env.read = .eof && (c.called env).udpSends = 0 &&
      !c.events.any (·.isTerminal)
  | none => false

/-- A connection that closes with an event closes with a terminal one; otherwise it was
closed before or the stream has ended. -/
theorem event_of_closing {state : SslState} (h : env.next state = .closing) :
    (∃ event, env.event state = some event ∧ event.isTerminal = true) ∨
      env.event state = none ∧ (state = .closing ∨ state = .data ∧ env.read = .eof) := by
  cases state with
  | connecting =>
    rw [CliEnv.next] at h
    cases hret : env.handshake with
    | wantReadWrite | done => simp [hret] at h
    | accessDenied => exact Or.inl ⟨.accessDenied, by simp [CliEnv.event, hret], rfl⟩
    | error => exact Or.inl ⟨.closed, by simp [CliEnv.event, hret], rfl⟩
  | data =>
    rw [CliEnv.next] at h
    cases hret : env.read with
    | eof => exact Or.inr ⟨by simp [CliEnv.event, hret], Or.inr ⟨rfl, rfl⟩⟩
    | data buffer | wantReadWrite | accessDenied => simp [hret] at h
    | error => exact Or.inl ⟨.closed, by simp [CliEnv.event, hret], rfl⟩
  | closing => exact Or.inr ⟨rfl, Or.inl rfl⟩

theorem Told.entry {ctx c : DtlsClient} (h : ctx.Told) (he : ctx.entry e = some (c, env)) :
    c.Told := by
  cases e with
  | packet env' =>
    obtain ⟨rfl, -⟩ := Prod.mk.inj (Option.some.inj he)
    exact h
  | connect env' =>
    obtain ⟨rfl, -⟩ := Prod.mk.inj (Option.some.inj he)
    exact fun hclosing => by cases hclosing
  | timer env' | udpSent coalesced env' =>
    obtain ⟨hopen, he⟩ := Option.ite_none_left_eq_some.mp he
    obtain ⟨rfl, -⟩ := Prod.mk.inj (Option.some.inj he)
    exact fun hclosing => absurd hclosing hopen
  | startSend ret use | reset | close record | send sendCtx | destroy | ret => cases he

theorem told_entry_iff {ctx ctx' c : DtlsClient} (h : c.Told) (hwired : c.Wired)
    (he : ctx.entry e = some (c, env))
    (hlinked : Linked c ctx' env) : ctx'.Told ↔ ctx.endsSilently e = false := by
  have hsilent : ctx.endsSilently e = (decide (c.state = .data) && decide (env.read = .eof) &&
      decide ((c.called env).udpSends = 0) && !c.events.any (·.isTerminal)) := by
    unfold endsSilently
    rw [he]
  rw [hsilent]
  unfold Told
  rw [hlinked.state, hlinked.destroyed, hlinked.events, hlinked.udpSends]
  by_cases hnext : env.next c.state = .closing
  · rcases event_of_closing hnext with
      ⟨event, hevent, hterminal⟩ | ⟨hevent, hclosing | ⟨hdata, heof⟩⟩
    · have hnot : ¬ (c.state = .data ∧ env.read = .eof) := by
        rintro ⟨hdata, heof⟩
        simp [hdata, CliEnv.event, heof] at hevent
      refine ⟨fun _ => ?_, fun _ _ _ => Or.inl (by simp [hevent, hterminal])⟩
      simpa using fun hdata heof => absurd ⟨hdata, heof⟩ hnot
    · have hcalled : c.called env = c := if_pos hclosing
      refine ⟨fun _ => by simp [hclosing], fun _ _ hlive => ?_⟩
      rw [hcalled, hevent, Option.toList_none, List.append_nil]
      exact h hclosing hlive
    · have hlive : c.destroyed = false := by
        by_contra hdestroyed
        have hclosing := hwired.destroyed (by simpa using hdestroyed)
        rw [hdata] at hclosing
        cases hclosing
      rw [hevent, Option.toList_none, List.append_nil]
      simp only [hnext, hlive, forall_const]
      simp only [hdata, heof, decide_true, Bool.true_and]
      cases c.events.any (·.isTerminal) with
      | true => simp
      | false => simp [Nat.pos_iff_ne_zero]
  · have hnot : ¬ (c.state = .data ∧ env.read = .eof) := by
      rintro ⟨hdata, heof⟩
      exact hnext (by rw [hdata, CliEnv.next, heof])
    refine ⟨fun _ => ?_, fun _ hclosing => absurd hclosing hnext⟩
    simpa using fun hdata heof => absurd ⟨hdata, heof⟩ hnot

/-- The other steps close with the event, or wait for the UDP send of the close notify. -/
theorem told_relinks {ctx ctx' : DtlsClient} {event : Option NpDtlsCliEvent} (hwired : ctx.Wired)
    (h : ctx.Told) (hrelinks : Relinks ctx ctx' event) : ctx'.Told := by
  intro hclosing hlive
  cases hrelinks with
  | same hsame =>
    rw [hsame.events, hsame.udpSends]
    exact h (hsame.state ▸ hclosing) (hsame.destroyed ▸ hlive)
  | @writes c use hopen hc hsame =>
    rw [hsame.state, (mbedtls_only c use).1, hc.state] at hclosing
    exact absurd hclosing hopen
  | waits record hsending hsame =>
    right
    rw [hsame.udpSends]
    exact sending_mbedtlsSend record hwired.sending hsending
  | destroys hsame =>
    rw [hsame.destroyed] at hlive
    cases hlive
  | closes hstate hsame =>
    left
    rw [hsame.events]
    simp [NpDtlsCliEvent.isTerminal]

theorem told_step_iff {ctx ctx' : DtlsClient} (hwired : ctx.Wired) (h : ctx.Told)
    (hs : dtlsClientStep ctx e = some ctx') : ctx'.Told ↔ ctx.endsSilently e = false := by
  cases he : ctx.entry e with
  | some entered =>
    obtain ⟨c, env⟩ := entered
    exact told_entry_iff (h.entry he) (hwired.entry he hs) he (linked_step he hs)
  | none =>
    have hnot : ctx.endsSilently e = false := by
      unfold endsSilently
      rw [he]
    exact ⟨fun _ => hnot, fun _ => told_relinks hwired h (relinks_step he hs)⟩

end DtlsClient

/-! ### The server -/

namespace DtlsServer

/-- The owner of a closed connection that it did not destroy has been told, or a queued
event will tell it. -/
def Told (ctx : DtlsServer) : Prop :=
  ctx.state = .closing → ctx.destroying = false →
    ctx.notices.any (·.isTerminal) = true ∨ ctx.deferredEventEvent = true ∧
      ctx.deferredEvent = .closed ∨
      ctx.closeEv = true ∧ ctx.closeCb = true

def endsSilently (ctx : DtlsServer) (e : DtlsServerEvent) : Bool :=
  match ctx.entry e with
  | some (c, env, _) => c.state = .data && env.read = .eof
  | none => false

theorem deferred_of_closing {env : SrvModuleEnv} {state : SslState}
    (h : env.next state = .closing) :
    env.deferred state = some .closed ∨
      env.deferred state = none ∧ (state = .closing ∨ state = .data ∧ env.read = .eof) := by
  cases state with
  | connecting =>
    rw [SrvModuleEnv.next] at h
    cases hret : env.handshake with
    | wantReadWrite | done => simp [hret] at h
    | timeout | error => exact Or.inl (by simp [SrvModuleEnv.deferred, hret])
  | data =>
    rw [SrvModuleEnv.next] at h
    cases hret : env.read with
    | eof => exact Or.inr ⟨by simp [SrvModuleEnv.deferred, hret], Or.inr ⟨rfl, rfl⟩⟩
    | data sequence buffer | wantReadWrite => simp [hret] at h
    | closeNotify | error => exact Or.inl (by simp [SrvModuleEnv.deferred, hret])
  | closing => exact Or.inr ⟨rfl, Or.inl rfl⟩

theorem told_doOne_iff {c ctx' : DtlsServer} {env : SrvModuleEnv} {rest : SrvFrame} (h : c.Told)
    (hwired : c.Wired) (hrest : rest ≠ .destroyConnection) (hlinked : Linked c ctx' env rest) :
    ctx'.Told ↔ ¬ (c.state = .data ∧ env.read = .eof) := by
  unfold Told
  rw [hlinked.state, hlinked.destroying hrest, hlinked.notices, hlinked.deferredEventEvent,
    hlinked.deferredEvent, hlinked.closeEv, hlinked.closeCb]
  by_cases hnext : env.next c.state = .closing
  · rcases deferred_of_closing hnext with hdeferred | ⟨hdeferred, hclosing | ⟨hdata, heof⟩⟩
    · refine ⟨?_, fun _ _ _ => Or.inr (Or.inl (by simp [hdeferred]))⟩
      rintro - ⟨hdata, heof⟩
      simp [hdata, SrvModuleEnv.deferred, heof] at hdeferred
    · refine ⟨?_, fun _ _ hlive => ?_⟩
      · rintro - ⟨hdata, -⟩
        rw [hclosing] at hdata
        cases hdata
      · rw [hdeferred]
        exact h hclosing hlive
    · -- the invariant of an open connection leaves no other way of being told
      have hopen : c.state ≠ .closing := by simp [hdata]
      have hlive : c.destroying = false := by
        by_contra hdestroying
        exact hopen (hwired.destroying (by simpa using hdestroying))
      refine ⟨fun htold => ?_, fun hnot => absurd ⟨hdata, heof⟩ hnot⟩
      rcases htold hnext hlive with hnotice | ⟨hevent, hclosed⟩ | ⟨hevent, -⟩
      · rw [hwired.untold hopen] at hnotice
        cases hnotice
      · rw [hdeferred] at hevent hclosed
        have hcomplete := hwired.deferred hopen (by simpa using hevent)
        rw [Option.getD_none, hcomplete] at hclosed
        cases hclosed
      · exact absurd (hwired.closeEv hevent).2 hopen
  · refine ⟨?_, fun _ hclosing => absurd hclosing hnext⟩
    rintro - ⟨hdata, heof⟩
    exact hnext (by rw [hdata, SrvModuleEnv.next, heof])

theorem told_relinks {ctx ctx' : DtlsServer} (hwired : ctx.Wired) (h : ctx.Told)
    (hrelinks : Relinks ctx ctx') : ctx'.Told := by
  intro hclosing hlive
  cases hrelinks with
  | same hsame =>
    rw [hsame.notices, hsame.deferredEventEvent, hsame.deferredEvent, hsame.closeEv, hsame.closeCb]
    exact h (hsame.state ▸ hclosing) (hsame.destroying ▸ hlive)
  | tells hevent hsame =>
    rw [hsame.notices, hsame.deferredEventEvent, hsame.closeEv, hsame.closeCb]
    rcases h (hsame.state ▸ hclosing) (hsame.destroying ▸ hlive) with
      hnotice | ⟨-, hclosed⟩ | hclose
    · exact Or.inl (by rw [List.any_append, hnotice, Bool.true_or])
    · exact Or.inl (by rw [List.any_append, hclosed]; simp [SrvNotice.isTerminal])
    · exact Or.inr (Or.inr hclose)
  | closed hevent hsame =>
    left
    rw [hsame.notices, (hwired.closeEv hevent).1]
    simp [SrvNotice.isTerminal]
  | closes hopen hsame =>
    right
    right
    exact ⟨hsame.closeEv, hsame.closeCb⟩
  | destroys hstate hdestroying hclose =>
    rw [hdestroying] at hlive
    cases hlive

theorem told_step_iff {ctx ctx' : DtlsServer} {e : DtlsServerEvent} (hwired : ctx.Wired)
    (h : ctx.Told)
    (hs : dtlsServerStep ctx e = some ctx') : ctx'.Told ↔ ctx.endsSilently e = false := by
  unfold endsSilently
  cases he : ctx.entry e with
  | some entered =>
    obtain ⟨c, env, rest⟩ := entered
    obtain ⟨hc, -, hrest⟩ := frames_of_entry he hs
    have htold : c.Told := by
      rw [hc]
      exact h
    have hcwired : c.Wired := by
      rw [hc]
      exact ⟨hwired.closeEv, hwired.untold, hwired.deferred, hwired.destroying⟩
    rw [told_doOne_iff htold hcwired hrest (linked_step he hs)]
    simp
  | none =>
    exact ⟨fun _ => rfl, fun _ => told_relinks hwired h (relinks_step he hwired.destroying hs)⟩

end DtlsServer

/-- Over every run of a DTLS client and of a DTLS server connection, the owner of a
connection that has closed has been told or will be told, if and only if the stream of the
connection never ends: in the client, with nothing being sent and no terminal event
delivered before, in the server at all. -/
theorem closing_told_iff {cli : List DtlsClientEvent} {c : DtlsClient} {srv : List DtlsServerEvent}
    {s : DtlsServer} (hcli : dtlsClient.Run cli c) (hsrv : dtlsServer.Run srv s) :
    ((∀ t, dtlsClient.Visits cli t → t.Told) ↔
      ∀ t e, dtlsClient.Takes cli t e → t.endsSilently e = false) ∧
    ((∀ t, dtlsServer.Visits srv t → t.Told) ↔
      ∀ t e, dtlsServer.Takes srv t e → t.endsSilently e = false) := by
  constructor
  · have hinit : dtlsClient.init.Told :=
      fun hclosing => absurd hclosing (by simp [dtlsClient, DtlsClient.create])
    refine hcli.good_iff_takes DtlsClient.Wired DtlsClient.Told _ DtlsClient.wired_create hinit ?_
    intro ctx e ctx' hwired htold hs
    exact ⟨DtlsClient.told_step_iff hwired htold hs, fun _ => DtlsClient.wired_step hwired hs⟩
  · have hinit : dtlsServer.init.Told :=
      fun hclosing => absurd hclosing (by simp [dtlsServer, DtlsServer.createConnection])
    refine hsrv.good_iff_takes DtlsServer.Wired DtlsServer.Told _
      DtlsServer.wired_createConnection hinit ?_
    intro ctx e ctx' hwired htold hs
    exact ⟨DtlsServer.told_step_iff hwired htold hs, fun _ => DtlsServer.wired_step hwired hs⟩

/-- The client of `reconnectRun` is closed twice; a server connection is closed by the close
notify of its peer. -/
theorem closing_told_by_peer :
    ((dtlsClient.exec reconnectRun).map (·.state) = some .closing ∧
      ∀ t, dtlsClient.Visits reconnectRun t → t.Told) ∧
    ((dtlsServer.exec (sendTwoRun ++ [.packet { read := .closeNotify }, .deferredEvent])).map
      (·.notices) =
        some [.event .handshakeComplete, .event .closed] ∧
      ∀ t, dtlsServer.Visits (sendTwoRun ++ [.packet { read := .closeNotify }, .deferredEvent]) t →
        t.Told) := by
  have hcli : dtlsClient.Run reconnectRun _ := Machine.run_of_exec rfl
  have hsrv : dtlsServer.Run (sendTwoRun ++ [.packet { read := .closeNotify }, .deferredEvent]) _ :=
    Machine.run_of_exec rfl
  obtain ⟨hclient, hserver⟩ := closing_told_iff hcli hsrv
  refine ⟨⟨by decide +kernel, hclient.mpr fun t e ht => ?_⟩,
    ⟨by decide +kernel, hserver.mpr fun t e ht => ?_⟩⟩
  · exact Machine.takes_eq_false_of_allTaken (by decide +kernel) ht
  · exact Machine.takes_eq_false_of_allTaken (by decide +kernel) ht

/-- At the end of the stream both modules close and tell nobody: no event is queued, no
timer runs and nothing is being sent. -/
theorem end_of_stream_closes_silently :
    (∃ s, dtlsClient.Run (handshakeRun ++ [.packet { read := .eof }]) s ∧ s.state = .closing ∧
      s.events = [.handshakeComplete] ∧ s.udpSends = 0 ∧ s.timer = false ∧ ¬ s.Told) ∧
    (∃ s, dtlsServer.Run (acceptRun ++ [.packet { read := .eof }]) s ∧ s.state = .closing ∧
      s.notices = [.event .handshakeComplete] ∧ s.deferredEventEvent = false ∧ s.closeEv = false ∧
      s.timer = false ∧ ¬ s.Told) := by
  constructor
  · refine ⟨_, Machine.run_of_exec rfl, rfl, rfl, rfl, rfl, fun h => ?_⟩
    exact absurd (h rfl rfl) (by decide +kernel)
  · refine ⟨_, Machine.run_of_exec rfl, rfl, rfl, rfl, rfl, rfl, fun h => ?_⟩
    exact absurd (h rfl rfl) (by decide +kernel)

end NabtoDevice
