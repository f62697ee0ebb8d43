import NabtoDevice.Lib.Machine
import NabtoDevice.Sanity.DtlsClient
import Mathlib.Data.List.Basic
import Mathlib.Tactic.Common

/-! The events and the send queue of the DTLS client module. Both proofs compare the two
kinds of steps: those that come to `nm_dtls_event_do_one`, whose outcome mbedtls decides,
and the others. -/

namespace NabtoDevice

variable {ctx ctx' : DtlsClient} {e : DtlsClientEvent}

namespace DtlsClient

/-! ### Terminal events -/

/-- Since the last `nm_dtls_connect` there was at most one terminal event, and no event
after it. -/
structure EndsOnce (ctx : DtlsClient) : Prop where
  once : ctx.events.countP (·.isTerminal) ≤ 1
  last : ∀ before event after, ctx.events = before ++ event :: after →
    event.isTerminal = true → after = []

/-- Nothing terminal comes before the last event. -/
theorem endsOnce_of_concat {earlier : List NpDtlsCliEvent} {event : NpDtlsCliEvent}
    (hevents : ctx.events = earlier ++ [event]) :
    EndsOnce ctx ↔ earlier.any (·.isTerminal) = false := by
  rw [List.any_eq_false]
  constructor
  · intro h ev hev hterminal
    obtain ⟨before, after, rfl⟩ := List.append_of_mem hev
    have hlast := h.last before ev (after ++ [event]) (by simp [hevents]) hterminal
    simp at hlast
  · intro h
    constructor
    · rw [hevents, List.countP_append, List.countP_eq_zero.mpr h, Nat.zero_add]
      exact List.countP_le_length
    · intro before ev after heq hterminal
      rcases List.eq_nil_or_concat after with hnil | ⟨after', last, rfl⟩
      · exact hnil
      · -- the event would be among the earlier ones
        have hsplit : earlier ++ [event] = (before ++ ev :: after') ++ [last] := by
          rw [← hevents, heq]
          simp
        obtain ⟨hinit, -⟩ := List.append_inj' hsplit rfl
        exact absurd hterminal (h ev (by simp [hinit]))

/-- The terminal event comes before the connection is closed: mbedtls reports `ACCESS_DENIED`
to a client in `DATA`, which stays there, or `sender` has refused the close notify, so that the
send function has closed the client when `dtls_cli_close` goes on and closes it. -/
def endsEarly (ctx : DtlsClient) : DtlsClientEvent → Bool
  | .packet env | .timer env | .udpSent _ env => ctx.state = .data && env.read = .accessDenied
  | .ret => ctx.frames.head? = some .closeNotify && !ctx.sending
  | _ => false

/-- A UDP send completes in `CLOSING` when the owner already knows that the connection has
ended. -/
def completesEnded (ctx : DtlsClient) : DtlsClientEvent → Bool
  | .udpSent _ _ => ctx.state = .closing && ctx.events.any (·.isTerminal)
  | _ => false

def Settled (ctx : DtlsClient) : Prop := ctx.events.any (·.isTerminal) = true → ctx.state = .closing

theorem endsOnce_nil (hevents : ctx.events = []) : EndsOnce ctx :=
  ⟨by simp [hevents], fun before event after heq => by simp [hevents] at heq⟩

/-- Without a second event after a terminal one, and only so, the connection still ends once. -/
theorem endsOnce_step_iff (h : EndsOnce ctx) (hs : dtlsClientStep ctx e = some ctx') :
    EndsOnce ctx' ↔ ((ctx.since e).any (·.isTerminal) = true → ctx.delivered e = none) := by
  have hevents := events_step hs
  cases hdel : ctx.delivered e with
  | none =>
    rw [hdel, Option.toList_none, List.append_nil] at hevents
    refine ⟨fun _ _ => rfl, fun _ => ?_⟩
    rcases since_cases ctx e with hsince | hsince
    · exact endsOnce_nil (hevents.trans hsince)
    · have hsame := hevents.trans hsince
      exact ⟨hsame ▸ h.once, hsame ▸ h.last⟩
  | some event =>
    rw [hdel, Option.toList_some] at hevents
    rw [endsOnce_of_concat hevents]
    simp

/-- The functions called in `CLOSING` deliver nothing, but for the UDP callback. -/
theorem Settled.delivers_iff (h : ctx.Settled) (he : ctx.endsEarly e = false) :
    ((ctx.since e).any (·.isTerminal) = true → ctx.delivered e = none) ↔
      ctx.completesEnded e = false := by
  cases hended : ctx.events.any (·.isTerminal) with
  | false =>
    have hsince : (ctx.since e).any (·.isTerminal) = false := by
      rcases since_cases ctx e with hsince | hsince <;> simp [hsince, hended]
    have hcompletes : ctx.completesEnded e = false := by cases e <;> simp [completesEnded, hended]
    simp [hsince, hcompletes]
  | true =>
    have hclosing := h hended
    cases e with
    | connect env => simp [since, completesEnded]
    | udpSent coalesced env => simp [since, completesEnded, delivered, entry, hclosing, hended]
    | packet env | timer env | close record =>
      simp [completesEnded, delivered, entry, CliEnv.event, closesAtOnce, hclosing]
    | ret => simpa [completesEnded, delivered, entry, since, endsEarly, hended] using he
    | startSend ret use | reset | send sendCtx | destroy => simp [completesEnded, delivered, entry]

/-- Of the terminal events of `nm_dtls_event_do_one` only `ACCESS_DENIED` in `DATA` leaves the
connection open. -/
theorem Settled.eventDoOne (h : ctx.Settled) (env : CliEnv) {rest : CliFrame}
    (hrest : rest ≠ .closeNotify)
    (hdenied : ctx.state = .data → env.read ≠ .accessDenied) :
    (ctx.eventDoOne env rest).Settled := by
  have hlinked := linked_eventDoOne ctx env hrest
  rw [Settled, hlinked.state, hlinked.events, List.any_append, Bool.or_eq_true]
  cases hstate : ctx.state with
  | closing => exact fun _ => rfl
  | connecting =>
    have hopen (hended : ctx.events.any (·.isTerminal) = true) := hstate.symm.trans (h hended)
    have hdone : NpDtlsCliEvent.handshakeComplete.isTerminal = false := rfl
    cases hret : env.handshake <;> simp [CliEnv.next, CliEnv.event, hdone, hret]
    all_goals simpa using hopen
  | data =>
    have hopen (hended : ctx.events.any (·.isTerminal) = true) := hstate.symm.trans (h hended)
    cases hret : env.read <;> simp [CliEnv.next, CliEnv.event, hret]
    case accessDenied => exact absurd hret (hdenied hstate)
    all_goals simpa using hopen

/-- A step in which nothing is delivered does not open a connection. -/
theorem Settled.relinks (h : ctx.Settled) (hrelinks : Relinks ctx ctx' none) : ctx'.Settled := by
  intro hended
  cases hrelinks with
  | same hsame => exact hsame.state.trans (h (hsame.events ▸ hended))
  | writes use hopen hc hsame =>
    have hevents := hsame.events.trans ((mbedtls_only _ use).2.2.1.trans hc.events)
    exact absurd (h (hevents ▸ hended)) hopen
  | waits record hsending hsame => exact hsame.state
  | destroys hsame => exact hsame.state

theorem settled_step (h : ctx.Settled) (he : ctx.endsEarly e = false)
    (hs : dtlsClientStep ctx e = some ctx') : ctx'.Settled := by
  have hquiet (hentry : ctx.entry e = none) (hdel : ctx.delivered e = none) : ctx'.Settled :=
    h.relinks (hdel ▸ relinks_step hentry hs)
  cases dtlsClientCase_of_step hs with
  | packet env hidle | timer env hidle hopen | udpSent coalesced env hidle hsent hopen =>
    refine Settled.eventDoOne ?_ env (by simp) ?_
    · exact h
    · simpa [endsEarly] using he
  | connect env hlive =>
    refine Settled.eventDoOne ?_ env (by simp) ?_
    · exact fun hended => by cases hended
    · simp
  | udpSentLast coalesced env hidle hsent hclosing => exact fun _ => hclosing
  | close record hlive => exact fun _ => state_close ctx record
  | timerClosing env hidle hclosing =>
    have hentry : ctx.entry (.timer env) = none := if_pos hclosing
    exact hquiet hentry (by simp [delivered, hentry])
  | ret hrest => exact hquiet rfl (by simpa [delivered, entry, endsEarly] using he)
  | startSend | reset | sendRefused | send | destroy => exact hquiet rfl rfl

end DtlsClient

/-- Over every run of a DTLS client in which mbedtls never reports `ACCESS_DENIED` to an open
connection and no close goes on after its close notify was refused, each connection ends with at
most one terminal event and nothing after it, if and only if no UDP send completes in `CLOSING`
after the terminal event. -/
theorem terminal_event_once_iff {evs : List DtlsClientEvent} {s : DtlsClient}
    (h : dtlsClient.Run evs s)
    (hexpected : ∀ t e, dtlsClient.Takes evs t e → t.endsEarly e = false) :
    (∀ t, dtlsClient.Visits evs t → t.EndsOnce) ↔
      ∀ t e, dtlsClient.Takes evs t e → t.completesEnded e = false := by
  have hinit : dtlsClient.init.EndsOnce := DtlsClient.endsOnce_nil rfl
  have hsettled {t : DtlsClient} (ht : dtlsClient.Visits evs t) : t.Settled := by
    refine ht.invariant_of_takes DtlsClient.Settled
      (fun t e => t.endsEarly e = false) ?_ ?_ hexpected
    · exact fun hended => by cases hended
    · exact fun t e t' => DtlsClient.settled_step
  have honce := h.good_iff_takes (fun _ => True) DtlsClient.EndsOnce
    (fun t e => (t.since e).any (·.isTerminal) = true → t.delivered e = none) trivial hinit
    fun t e t' _ ht hs => ⟨DtlsClient.endsOnce_step_iff ht hs, fun _ => trivial⟩
  rw [honce]
  exact forall_congr' fun t => forall_congr' fun e => forall_congr' fun ht =>
    (hsettled ht.visits).delivers_iff (hexpected t e ht)

def handshakeRun : List DtlsClientEvent :=
  [.connect { use := ⟨.taken, true⟩ }, .udpSent 0 {}, .packet { use := ⟨.taken, true⟩ },
    .udpSent 0 {}, .packet { handshake := .done }, .ret]

def reconnectRun : List DtlsClientEvent :=
  handshakeRun ++ [.packet { read := .error }, .reset, .connect { use := ⟨.taken, true⟩ }, .ret,
    .udpSent 0 {}, .packet { handshake := .accessDenied }, .ret]

theorem terminal_event_once_reconnect :
    (dtlsClient.exec reconnectRun).map (·.events) = some [.accessDenied] ∧
      ∀ t, dtlsClient.Visits reconnectRun t → t.EndsOnce := by
  have hr : dtlsClient.Run reconnectRun _ := Machine.run_of_exec rfl
  have hexpected (t : DtlsClient) (e : DtlsClientEvent) (ht : dtlsClient.Takes reconnectRun t e) :
      t.endsEarly e = false := Machine.takes_eq_false_of_allTaken (by decide +kernel) ht
  refine ⟨by decide +kernel, (terminal_event_once_iff hr hexpected).mpr fun t e ht => ?_⟩
  exact Machine.takes_eq_false_of_allTaken (by decide +kernel) ht

/-- An alert of the server closes the connection while a packet is still being sent, and the
completion of the send closes it again. So do a close after `ACCESS_DENIED` in `DATA`, and a
close whose notify is refused. -/
theorem connection_ends_twice :
    (∃ s, dtlsClient.Run (handshakeRun ++ [.send 1, .startSend .written ⟨.taken, false⟩, .ret,
        .packet { read := .error }, .ret, .udpSent 0 {}, .ret]) s ∧
      s.events = [.handshakeComplete, .closed, .closed] ∧ ¬ s.EndsOnce) ∧
    (∃ s, dtlsClient.Run
      (handshakeRun ++ [.packet { read := .accessDenied }, .ret, .close .none, .ret]) s ∧
      s.events = [.handshakeComplete, .accessDenied, .closed] ∧ ¬ s.EndsOnce) ∧
    ∃ s, dtlsClient.Run (handshakeRun ++ [.close .refused, .ret, .ret]) s ∧
      s.events = [.handshakeComplete, .closed, .closed] ∧ ¬ s.EndsOnce := by
  refine ⟨⟨_, Machine.run_of_exec rfl, by decide +kernel, fun h => ?_⟩,
    ⟨_, Machine.run_of_exec rfl, by decide +kernel, fun h => ?_⟩,
    ⟨_, Machine.run_of_exec rfl, by decide +kernel, fun h => ?_⟩⟩
  all_goals exact absurd h.once (by decide +kernel)

/-! ### The wake-up of the send queue -/

namespace DtlsClient

/-- Packets wait in an open connection that sends nothing, and no event will look at them. -/
structure Idle (ctx : DtlsClient) : Prop where
  state : ctx.state = .data
  sending : ctx.sending = false
  waiting : ctx.sendList.waiting ≠ []
  event : ctx.startSendEvent = false

end DtlsClient

def CliFrame.servesList : CliFrame → Bool
  | .startSend | .reset | .doFree => true
  | .done | .handlePacket | .udpSendCallback | .closeNotify => false

variable {rest : CliFrame} {env : CliEnv}

namespace DtlsClient

/-- The client is not idle, or it is inside of a callback after which the list is served. -/
def Awake (ctx : DtlsClient) : Prop := ctx.Idle → ctx.frames.any (·.servesList) = true

/-- The event ran when the packets could not be sent, and nothing has posted it since. -/
def unserved (ctx : DtlsClient) : Bool := !ctx.sendList.waiting.isEmpty && !ctx.startSendEvent

/-- The packets whose event has run are left behind where the reason to wait for ends: the UDP
send completes and mbedtls has nothing more to send, `sender` refuses a record, or the handshake
is done with nothing being sent. -/
def losesWakeup (ctx : DtlsClient) : DtlsClientEvent → Bool
  | .udpSent _ env => ctx.unserved && env.next ctx.state = .data && env.use.record ≠ .taken
  | .packet env | .timer env =>
    ctx.unserved && env.next ctx.state = .data &&
      (!ctx.sslSendBuffer && env.use.record = .refused ||
        ctx.state = .connecting && !ctx.sending && (ctx.sslSendBuffer || env.use.record ≠ .taken))
  | .connect env =>
    ctx.unserved && env.handshake = .done && (ctx.sslSendBuffer || env.use.record ≠ .taken) &&
      !ctx.frames.any (·.servesList)
  | _ => false

structure SameList (ctx ctx' : DtlsClient) : Prop where
  sendList : ctx'.sendList = ctx.sendList
  event : ctx'.startSendEvent = ctx.startSendEvent
  frames : ctx'.frames.any (·.servesList) = ctx.frames.any (·.servesList)

theorem sameList_mbedtls (ctx : DtlsClient) (use : MbedtlsUse) :
    SameList ctx (ctx.mbedtls use) := by
  obtain ⟨-, -, -, hlist, hevent, hframes, -⟩ := mbedtls_only ctx use
  exact ⟨hlist, hevent, by rw [hframes]⟩

theorem SameList.trans {a b c : DtlsClient} (hab : SameList a b) (hbc : SameList b c) :
    SameList a c :=
  ⟨hbc.sendList.trans hab.sendList, hbc.event.trans hab.event, hbc.frames.trans hab.frames⟩

/-- Only a destroyed client does more when a packet has been handled. -/
theorem sameList_resume (ctx : DtlsClient) (hrest : rest = .done ∨ rest = .handlePacket)
    (hlive : ctx.destroyed = false) : SameList ctx (ctx.resume rest) := by
  rcases hrest with rfl | rfl
  · exact ⟨rfl, rfl, rfl⟩
  · simp only [resume, hlive, Bool.false_and, Bool.false_eq_true, if_false]
    exact ⟨rfl, rfl, rfl⟩

theorem sameList_push (ctx : DtlsClient) (hrest : rest = .done ∨ rest = .handlePacket) :
    SameList ctx { ctx with frames := rest :: ctx.frames } := by
  rcases hrest with rfl | rfl <;> exact ⟨rfl, rfl, rfl⟩

theorem sameList_eventDoOne (hrest : rest = .done ∨ rest = .handlePacket)
    (hlive : ctx.destroyed = false)
    (hdata : env.next ctx.state = .data) : SameList ctx (ctx.eventDoOne env rest) := by
  have hcalled := sameList_mbedtls ctx env.use
  have hlive' : (ctx.mbedtls env.use).destroyed = false :=
    (mbedtls_only ctx env.use).2.1.trans hlive
  have hresume := hcalled.trans (sameList_resume _ hrest hlive')
  obtain ⟨hlist, hevent, hframes⟩ := hcalled.trans (sameList_push _ hrest)
  unfold eventDoOne
  cases hstate : ctx.state with
  | connecting =>
    rw [hstate, CliEnv.next] at hdata
    cases hret : env.handshake with
    | done => exact ⟨hlist, hevent, hframes⟩
    | wantReadWrite | accessDenied | error => simp [hret] at hdata
  | data =>
    rw [hstate, CliEnv.next] at hdata
    cases hret : env.read with
    | wantReadWrite => exact hresume
    | data buffer | accessDenied => exact ⟨hlist, hevent, hframes⟩
    | eof | error => simp [hret] at hdata
  | closing =>
    rw [hstate, CliEnv.next] at hdata
    cases hdata

theorem sameList_entry {c : DtlsClient} (he : ctx.entry e = some (c, env)) : SameList ctx c := by
  cases e with
  | packet env' | connect env' =>
    obtain ⟨rfl, -⟩ := Prod.mk.inj (Option.some.inj he)
    exact ⟨rfl, rfl, rfl⟩
  | timer env' | udpSent coalesced env' =>
    obtain ⟨-, he⟩ := Option.ite_none_left_eq_some.mp he
    obtain ⟨rfl, -⟩ := Prod.mk.inj (Option.some.inj he)
    exact ⟨rfl, rfl, rfl⟩
  | startSend ret use | reset | close record | send sendCtx | destroy | ret => cases he

theorem unserved_iff :
    ctx.unserved = true ↔ ctx.sendList.waiting ≠ [] ∧ ctx.startSendEvent = false := by
  simp [unserved]

/-- After the call into mbedtls no UDP send is outstanding: `sender` has refused the record, or
nothing was being sent and no record is handed over. -/
def SendsNothing (c : DtlsClient) (env : CliEnv) : Prop :=
  c.sslSendBuffer = false ∧ env.use.record = .refused ∨
    c.sending = false ∧ (c.sslSendBuffer = true ∨ env.use.record ≠ .taken)

theorem sending_called_iff {c : DtlsClient} (hdata : env.next c.state = .data) :
    (c.called env).sending = false ↔ c.SendsNothing env := by
  have hopen : c.state ≠ .closing := by
    intro hclosing
    rw [hclosing] at hdata
    cases hdata
  rw [called, if_neg hopen]
  unfold mbedtls mbedtlsSend SendsNothing
  cases c.sslSendBuffer <;> cases env.use.record <;> simp

/-- A step that comes to `nm_dtls_event_do_one` loses the wake-up where it ends in `DATA`, nothing
is being sent, and no function in progress serves the list. -/
theorem awake_entry_iff {c : DtlsClient} (hwired : c.Wired) (he : ctx.entry e = some (c, env))
    (hs : dtlsClientStep ctx e = some ctx') :
    ctx'.Awake ↔ (ctx.unserved = true → env.next c.state = .data → c.SendsNothing env →
      ctx.frames.any (·.servesList) = true) := by
  have hlinked := linked_step he hs
  by_cases hdata : env.next c.state = .data
  · have hlive : c.destroyed = false := by
      by_contra hdestroyed
      rw [hwired.destroyed (by simpa using hdestroyed)] at hdata
      cases hdata
    have hsame : SameList c ctx' := by
      rcases step_of_entry he hs with rfl | rfl
      · exact sameList_eventDoOne (Or.inl rfl) hlive hdata
      · exact sameList_eventDoOne (Or.inr rfl) hlive hdata
    obtain ⟨hlist, hevent, hframes⟩ := (sameList_entry he).trans hsame
    have hidle : ctx'.Idle ↔ ctx.unserved = true ∧ (c.called env).sending = false := by
      rw [unserved_iff, ← hlinked.sending, ← hlist, ← hevent]
      exact ⟨fun h => ⟨⟨h.waiting, h.event⟩, h.sending⟩,
        fun h => ⟨hlinked.state.trans hdata, h.2, h.1.1, h.1.2⟩⟩
    rw [Awake, hidle, hframes, ← sending_called_iff hdata]
    constructor
    · exact fun h hunserved _ hsending => h ⟨hunserved, hsending⟩
    · exact fun h hboth => h hboth.1 hdata hboth.2
  · refine ⟨fun _ _ h => absurd h hdata, fun _ hidle => ?_⟩
    exact absurd (hlinked.state.symm.trans hidle.state) hdata

/-- In an awake client outside of callbacks packets without their event wait for a UDP send. -/
theorem Awake.sending (h : ctx.Awake) (hframes : ctx.frames = []) (hstate : ctx.state = .data)
    (hunserved : ctx.unserved = true) : ctx.sending = true := by
  by_contra hsending
  obtain ⟨hwaiting, hevent⟩ := unserved_iff.mp hunserved
  have hany := h ⟨hstate, by simpa using hsending, hwaiting, hevent⟩
  rw [hframes] at hany
  cases hany

/-- A packet or a timer stops the sending, or opens the connection with nothing being sent. -/
theorem Awake.read_iff (h : ctx.Awake) (hframes : ctx.frames = []) :
    (ctx.unserved = true → env.next ctx.state = .data → ctx.SendsNothing env →
      ctx.frames.any (·.servesList) = true) ↔ ctx.losesWakeup (.packet env) = false := by
  rw [hframes, List.any_nil]
  cases hunserved : ctx.unserved with
  | false => simp [losesWakeup, hunserved]
  | true =>
    by_cases hdata : env.next ctx.state = .data
    · have hstate : ctx.state ≠ .connecting → ctx.sending = true := by
        intro hne
        refine h.sending hframes ?_ hunserved
        cases hstate : ctx.state with
        | connecting => exact absurd hstate hne
        | data => rfl
        | closing =>
          rw [hstate] at hdata
          cases hdata
      simp only [losesWakeup, SendsNothing, hunserved, hdata]
      by_cases hconnecting : ctx.state = .connecting
      · cases ctx.sslSendBuffer <;> cases ctx.sending <;> cases env.use.record <;>
          simp [hconnecting]
      · rw [hstate hconnecting]
        cases ctx.sslSendBuffer <;> cases env.use.record <;> simp [hconnecting]
    · simp [losesWakeup, hdata]

theorem Idle.not_awake (h : ctx.Idle) (hframes : ctx.frames = []) : ¬ ctx.Awake := by
  intro hawake
  have hany := hawake h
  rw [hframes] at hany
  cases hany

theorem awake_of_state (h : ctx.state ≠ .data) : ctx.Awake :=
  fun hidle => absurd hidle.state h

theorem awake_resetLoop (ctx : DtlsClient) : ctx.resetLoop.Awake := by
  unfold resetLoop
  cases hlist : ctx.sendList.waiting with
  | nil => exact fun hidle => absurd hlist hidle.waiting
  | cons first others => exact fun _ => rfl

theorem awake_doFree (ctx : DtlsClient) : ctx.doFree.Awake := by
  unfold doFree
  cases hlist : ctx.sendList.waiting with
  | nil => exact fun hidle => absurd hlist hidle.waiting
  | cons first others => exact fun _ => rfl

/-- Only a callback that returns can leave packets behind, and not one after which the
list is served. -/
theorem awake_resume (h : rest.servesList = false → ctx.Awake) : (ctx.resume rest).Awake := by
  cases rest with
  | done => exact h rfl
  | handlePacket =>
    have hawake : Awake { ctx with receiving := false } :=
      fun hidle => h rfl ⟨hidle.state, hidle.sending, hidle.waiting, hidle.event⟩
    unfold resume
    dsimp only
    split_ifs
    · exact awake_doFree _
    · exact hawake
  | udpSendCallback =>
    unfold resume
    dsimp only
    split_ifs
    · exact awake_doFree _
    · exact h rfl
  | closeNotify =>
    unfold resume
    dsimp only
    split_ifs
    · exact h rfl
    · exact fun hidle => h rfl ⟨hidle.state, hidle.sending, hidle.waiting, hidle.event⟩
  | reset => exact awake_resetLoop ctx
  | startSend => exact fun hidle => absurd hidle.event (by simp [resume])
  | doFree => exact awake_doFree ctx

theorem awake_startSend (ctx : DtlsClient) (ret : WriteRet) (use : MbedtlsUse) :
    (ctx.startSendDeferred ret use).Awake := by
  rcases startSendDeferred_cases ctx ret use with
    ⟨heq, hskip⟩ | ⟨next, others, sentCount, -, -, heq⟩
  · rw [heq]
    intro hidle
    rcases hskip with hclosing | hsending | hempty
    · cases hclosing.symm.trans hidle.state
    · cases hsending.symm.trans hidle.sending
    · exact absurd hempty hidle.waiting
  · rw [heq]
    exact fun _ => rfl

theorem awake_step (he : ctx.entry e = none) (h : ctx.Awake)
    (hs : dtlsClientStep ctx e = some ctx') : ctx'.Awake := by
  cases dtlsClientCase_of_step hs with
  | packet env hframes | connect env hlive => cases he
  | timer env hframes hopen | udpSent coalesced env hframes hsent hopen =>
    rw [entry, if_neg hopen] at he
    cases he
  | timerClosing env hframes hclosing | sendRefused sendCtx hclosing =>
    exact awake_of_state (by simp [hclosing])
  | udpSentLast coalesced env hframes hsent hclosing =>
    exact awake_of_state (by simp [doClose, eventHandler, hclosing])
  | startSend ret use hframes => exact awake_startSend _ ret use
  | reset hlive => exact awake_resetLoop ctx
  | close record hlive => exact awake_of_state (by simp [state_close])
  | send sendCtx hopen => exact fun hidle => by cases hidle.event
  | destroy hlive =>
    unfold destroy
    dsimp only
    split_ifs
    · exact awake_doFree _
    · exact awake_of_state (by simp)
  | ret hframes =>
    refine awake_resume fun hserves hidle => ?_
    have hany := h ⟨hidle.state, hidle.sending, hidle.waiting, hidle.event⟩
    rw [hframes, List.any_cons, hserves, Bool.false_or] at hany
    exact hany

theorem awake_step_iff (hwired : ctx.Wired) (h : ctx.Awake)
    (hs : dtlsClientStep ctx e = some ctx') : ctx'.Awake ↔ ctx.losesWakeup e = false := by
  have hnone (he : ctx.entry e = none) (hloses : ctx.losesWakeup e = false) :
      ctx'.Awake ↔ ctx.losesWakeup e = false := ⟨fun _ => hloses, fun _ => awake_step he h hs⟩
  cases dtlsClientCase_of_step hs with
  | packet env hframes =>
    have hentry : ctx.entry (.packet env) = some ({ ctx with receiving := true }, env) := rfl
    rw [awake_entry_iff (hwired.entry hentry hs) hentry hs]
    exact h.read_iff hframes
  | timer env hframes hopen =>
    have hentry : ctx.entry (.timer env) = some ({ ctx with timer := false }, env) := if_neg hopen
    rw [awake_entry_iff (hwired.entry hentry hs) hentry hs]
    exact h.read_iff hframes
  | udpSent coalesced env hframes hsent hopen =>
    have hentry : ctx.entry (.udpSent coalesced env) = some ({ ctx with
        udpSends := ctx.udpSends - (coalesced + 1)
        sending := false
        sslSendBuffer := false }, env) := if_neg hopen
    rw [awake_entry_iff (hwired.entry hentry hs) hentry hs]
    cases hrecord : env.use.record <;> simp [losesWakeup, SendsNothing, hframes, hrecord]
  | connect env hlive =>
    have hentry : ctx.entry (.connect env) =
        some ({ ctx with state := .connecting, sending := false, events := [] }, env) := rfl
    rw [awake_entry_iff (hwired.entry hentry hs) hentry hs]
    have hdata : env.next .connecting = .data ↔ env.handshake = .done := by
      cases hret : env.handshake <;> simp [CliEnv.next, hret]
    simp only [losesWakeup, SendsNothing, hdata]
    cases ctx.unserved <;> cases ctx.sslSendBuffer <;> cases env.use.record <;>
      cases ctx.frames.any (·.servesList) <;> simp
  | timerClosing env hframes hclosing =>
    exact hnone (if_pos hclosing) (by simp [losesWakeup, CliEnv.next, hclosing])
  | udpSentLast coalesced env hframes hsent hclosing =>
    exact hnone (if_pos hclosing) (by simp [losesWakeup, CliEnv.next, hclosing])
  | startSend | reset | close | sendRefused | send | destroy | ret => exact hnone rfl rfl

end DtlsClient

/-- Over every run of a DTLS client the packets queued in an open connection that sends
nothing have their event, if and only if no step of the connection leaves them without:
one with which the connection opens or a UDP send ends, when the event has run before. -/
theorem client_send_queue_awake_iff {evs : List DtlsClientEvent} {s : DtlsClient}
    (h : dtlsClient.Run evs s) :
    (∀ t, dtlsClient.Visits evs t → t.Awake) ↔
      ∀ t e, dtlsClient.Takes evs t e → t.losesWakeup e = false := by
  have hinit : dtlsClient.init.Awake :=
    DtlsClient.awake_of_state (by simp [dtlsClient, DtlsClient.create])
  refine h.good_iff_takes DtlsClient.Wired DtlsClient.Awake _ DtlsClient.wired_create hinit ?_
  intro ctx e ctx' hwired hawake hs
  exact ⟨DtlsClient.awake_step_iff hwired hawake hs, fun _ => DtlsClient.wired_step hwired hs⟩

/-- Two packets, the second submitted by the callback of the first, each sent before the
next one is looked at. -/
theorem client_send_queue_awake_in_turn :
    (dtlsClient.exec (handshakeRun ++ [.send 1, .startSend .written ⟨.taken, false⟩, .send 2, .ret,
      .udpSent 0 {}, .startSend .written ⟨.taken, false⟩,
        .ret])).map (·.sendList.done) = some [0, 1] ∧
    ∀ t, dtlsClient.Visits
      (handshakeRun ++ [.send 1, .startSend .written ⟨.taken, false⟩, .send 2, .ret,
      .udpSent 0 {}, .startSend .written ⟨.taken, false⟩, .ret]) t → t.Awake := by
  have hr : dtlsClient.Run
    (handshakeRun ++ [.send 1, .startSend .written ⟨.taken, false⟩, .send 2, .ret,
    .udpSent 0 {}, .startSend .written ⟨.taken, false⟩, .ret]) _ := Machine.run_of_exec rfl
  refine ⟨by decide +kernel, (client_send_queue_awake_iff hr).mpr fun t e ht => ?_⟩
  exact Machine.takes_eq_false_of_allTaken (by decide +kernel) ht

/-- The event of the second packet runs while the first one is being sent. When that send
ends nothing looks at the second packet. -/
theorem second_packet_left_waiting :
    ∃ s, dtlsClient.Run (handshakeRun ++
      [.send 1, .send 2, .startSend .written ⟨.taken, false⟩, .ret,
        .startSend .written {}, .udpSent 0 {}]) s ∧
      s.frames = [] ∧ s.Idle ∧ ¬ s.Awake := by
  refine ⟨_, Machine.run_of_exec rfl, rfl, ?_⟩
  refine ⟨⟨by decide +kernel, by decide +kernel, by decide +kernel, by decide +kernel⟩, ?_⟩
  exact DtlsClient.Idle.not_awake
    ⟨by decide +kernel, by decide +kernel, by decide +kernel, by decide +kernel⟩ rfl

end NabtoDevice
