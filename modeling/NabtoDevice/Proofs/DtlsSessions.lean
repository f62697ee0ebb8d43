import NabtoDevice.Sanity.DtlsSessions

/-! The bookkeeping of the UDP sends of a DTLS client context. `sending` and the size of the send
buffer are right as long as no connect and no reset forgets a send that has not completed. -/

namespace NabtoDevice

namespace DtlsSessions

open DtlsClient

structure Good (t : DtlsSessions) : Prop where
  sending : t.client.sending = true ↔ t.pending ≠ []
  intact : t.overwritten = false
  told : t.mistaken = false

/-- At most one send is outstanding, and it belongs to the current connection. While it is, the
buffer is marked as full or nothing is handed to the send function. -/
structure Sound (t : DtlsSessions) : Prop extends Good t where
  count : t.client.udpSends = t.pending.length
  single : t.pending.length ≤ 1
  busy : t.pending ≠ [] → t.client.sslSendBuffer = true ∨ t.client.state = .closing
  destroyed : t.client.destroyed = true → t.client.state = .closing

/-- The owner connects while a send is outstanding, or the end of a reset finds one in a state in
which more is sent. -/
def forgetsSend (t : DtlsSessions) : DtlsSessionsEvent → Bool
  | .call (.connect _) => t.pending ≠ []
  | .call e => t.pending ≠ [] && t.client.endsReset e && t.client.state ≠ .closing
  | .completed _ _ => false

variable {t t' : DtlsSessions} {e : DtlsSessionsEvent} {client : DtlsClient}

theorem step_cases (hs : dtlsSessionsStep t e = some t') :
    t.enabled e = true ∧ ∃ client, dtlsClientStep t.client (t.seen e) = some client ∧
      t' = t.after e client := by
  obtain ⟨hen, hs⟩ := Option.ite_none_right_eq_some.mp hs
  obtain ⟨client, hclient, rfl⟩ := Option.map_eq_some_iff.mp hs
  exact ⟨hen, client, hclient, rfl⟩

structure Ready (t : DtlsSessions) (e : DtlsSessionsEvent) : Prop where
  count : (t.client.cleared (t.seen e)).udpSends = (t.left e).length
  sending : (t.client.cleared (t.seen e)).sending = true ↔ t.left e ≠ []
  single : (t.left e).length ≤ 1
  busy : t.left e ≠ [] →
    (t.client.cleared (t.seen e)).sslSendBuffer = true ∧ t.client.full (t.seen e) = true ∨
      t.client.state = .closing ∧ ∀ env, t.seen e ≠ .connect env
  told : t.mistakes e = false

theorem Sound.ready_connect (h : t.Sound) {env : CliEnv} (hnone : t.pending = []) :
    t.Ready (.call (.connect env)) where
  count := h.count
  sending := by simp [cleared, seen, left, hnone]
  single := h.single
  busy hleft := absurd hnone hleft
  told := rfl

theorem Sound.ready_call (h : t.Sound) {e : DtlsClientEvent} (hsent : ∀ n env, e ≠ .udpSent n env)
    (hconnect : ∀ env, e ≠ .connect env) (hq : t.forgetsSend (.call e) = false) :
    t.Ready (.call e) := by
  have hcleared := cleared_of_plain t.client hsent hconnect
  have hfull := full_of_plain t.client hsent
  refine ⟨?_, ?_, h.single, fun hleft => ?_, rfl⟩
  · rw [seen, hcleared]
    split_ifs <;> exact h.count
  · rw [seen, hcleared]
    split_ifs <;> exact h.sending
  · rw [seen, hcleared, hfull]
    have hpending : t.pending ≠ [] := hleft
    by_cases hend : t.client.endsReset e = true
    · -- the reset clears the size of the buffer, so the state must keep it from being used
      have hclosing : t.client.state = .closing := by
        cases e with
        | reset | ret => simpa [forgetsSend, hpending, hend] using hq
        | _ => cases hend
      exact Or.inr ⟨hclosing, hconnect⟩
    · rw [if_neg hend]
      exact (h.busy hpending).imp (fun hbuffer => ⟨hbuffer, hbuffer⟩) fun hclosing =>
        ⟨hclosing, hconnect⟩

theorem Sound.ready_completed (h : t.Sound) {rest : List ℕ} {env : CliEnv}
    (hen : t.enabled (.completed rest env) = true) : t.Ready (.completed rest env) := by
  have hlt : rest.length < t.pending.length := by
    simpa using (Bool.and_eq_true_iff.mp hen).2
  have hsingle := h.single
  have hrest : rest = [] := List.length_eq_zero_iff.mp (by omega)
  subst hrest
  have hcount := h.count
  refine ⟨?_, by simp [cleared, seen, left], by simp [left], fun hleft => absurd rfl hleft,
    by simp [mistakes]⟩
  simp only [cleared, seen, left, List.length_nil]
  omega

theorem Sound.ready (h : t.Sound) (hen : t.enabled e = true) (hq : t.forgetsSend e = false) :
    t.Ready e := by
  cases e with
  | completed rest env => exact h.ready_completed hen
  | call e =>
    by_cases hconnect : ∃ env, e = .connect env
    · obtain ⟨env, rfl⟩ := hconnect
      exact h.ready_connect (by simpa [forgetsSend] using hq)
    · refine h.ready_call ?_ (fun env heq => hconnect ⟨env, heq⟩) hq
      rintro n env rfl
      cases hen

/-- Without a send outstanding, the record that is handed over decides. -/
theorem Ready.sends_of_none (hr : t.Ready e) (hs : dtlsClientStep t.client (t.seen e) = some client)
    (hleft : t.left e = []) :
    client.sending = false ∧ client.udpSends = 0 ∨
      client.sending = true ∧ client.udpSends = 1 ∧ client.sslSendBuffer = true := by
  have hsame := sameSends_step hs
  have hidle : (t.client.cleared (t.seen e)).sending = false := by
    rw [← Bool.not_eq_true, hr.sending]
    exact fun hne => hne hleft
  have hzero : (t.client.cleared (t.seen e)).udpSends = 0 := by
    rw [hr.count, hleft]
    rfl
  rw [hsame.sending, hsame.udpSends, hsame.buffer]
  unfold mbedtlsSend
  split_ifs
  · exact Or.inl ⟨hidle, hzero⟩
  · cases t.client.handed (t.seen e) with
    | none => exact Or.inl ⟨hidle, hzero⟩
    | taken => exact Or.inr ⟨rfl, congrArg (· + 1) hzero, rfl⟩
    | refused => exact Or.inl ⟨rfl, hzero⟩

/-- With a send outstanding nothing is handed over, or the buffer is full. -/
theorem Ready.sends_of_some (hr : t.Ready e) (hs : dtlsClientStep t.client (t.seen e) = some client)
    (hleft : t.left e ≠ []) :
    client.sending = true ∧ client.udpSends = (t.left e).length ∧
      (client.sslSendBuffer = true ∨ client.state = .closing) ∧
        t.client.copies (t.seen e) = false := by
  have hsame := sameSends_step hs
  have hidle : (t.client.cleared (t.seen e)).mbedtlsSend (t.client.handed (t.seen e)) =
      t.client.cleared (t.seen e) := by
    apply mbedtlsSend_idle
    rcases hr.busy hleft with ⟨hbuffer, -⟩ | ⟨hclosing, hconnect⟩
    · exact Or.inl hbuffer
    · exact Or.inr (handed_closing hclosing hconnect)
  rw [hidle] at hsame
  refine ⟨hsame.sending.trans (hr.sending.mpr hleft), hsame.udpSends.trans hr.count, ?_, ?_⟩
  · rcases hr.busy hleft with ⟨hbuffer, -⟩ | ⟨hclosing, hconnect⟩
    · exact Or.inl (hsame.buffer.trans hbuffer)
    · exact Or.inr (closing_step hs hclosing hconnect)
  · unfold copies
    rcases hr.busy hleft with ⟨-, hfull⟩ | ⟨hclosing, hconnect⟩
    · simp [hfull]
    · simp [handed_closing hclosing hconnect]

/-- The one send that is outstanding stays the only one, and without one at most one is added. -/
theorem Sound.after (h : t.Sound) (hr : t.Ready e)
    (hs : dtlsClientStep t.client (t.seen e) = some client) : (t.after e client).Sound := by
  have hsending : t.client.sending = true → 0 < t.client.udpSends := by
    intro hsending
    rw [h.count]
    exact List.length_pos_iff.mpr (h.sending.mp hsending)
  have hwired : client.Wired := wired_step ⟨hsending, h.destroyed⟩ hs
  have htold : (t.after e client).mistaken = false := by simp [DtlsSessions.after, h.told, hr.told]
  have hsingle := hr.single
  by_cases hleft : t.left e = []
  · have hintact : (t.after e client).overwritten = false := by
      simp [DtlsSessions.after, h.intact, hleft]
    have hpending : (t.after e client).pending =
        List.replicate client.udpSends (t.sessionAfter e) := by
      simp [DtlsSessions.after, hleft]
    rcases hr.sends_of_none hs hleft with ⟨hidle, hudp⟩ | ⟨hbusy, hudp, hbuffer⟩
    · rw [hudp] at hpending
      refine ⟨⟨?_, hintact, htold⟩, ?_, ?_, fun hne => absurd hpending hne, hwired.destroyed⟩
      · exact iff_of_false (Bool.eq_false_iff.mp hidle) (not_not.mpr hpending)
      · exact hudp.trans (congrArg List.length hpending).symm
      · simp [hpending]
    · rw [hudp] at hpending
      refine ⟨⟨?_, hintact, htold⟩, ?_, ?_, fun _ => Or.inl hbuffer, hwired.destroyed⟩
      · exact iff_of_true hbusy (by simp [hpending])
      · exact hudp.trans (congrArg List.length hpending).symm
      · simp [hpending]
  · obtain ⟨hbusy, hudp, hfull, hcopies⟩ := hr.sends_of_some hs hleft
    have hintact : (t.after e client).overwritten = false := by
      simp [DtlsSessions.after, h.intact, hcopies]
    have hpending : (t.after e client).pending = t.left e := by simp [DtlsSessions.after, hudp]
    refine ⟨⟨?_, hintact, htold⟩, ?_, ?_, fun _ => hfull, hwired.destroyed⟩
    · exact iff_of_true hbusy (by rw [hpending]; exact hleft)
    · exact hudp.trans (congrArg List.length hpending).symm
    · rw [hpending]
      exact hsingle

theorem Sound.step (h : t.Sound) (hq : t.forgetsSend e = false)
    (hs : dtlsSessionsStep t e = some t') : t'.Sound := by
  obtain ⟨hen, client, hclient, rfl⟩ := step_cases hs
  exact h.after (h.ready hen hq) hclient

theorem sound_create : create.Sound :=
  ⟨⟨by decide, rfl, rfl⟩, rfl, by decide, fun hne => absurd rfl hne, fun h => Bool.noConfusion h⟩

/-- A connect clears `sending`. If it is set again, the record that is sent has overwritten the
one that is being sent. -/
theorem not_good_of_connect {env : CliEnv} (hpending : t.pending ≠ [])
    (hs : dtlsSessionsStep t (.call (.connect env)) = some t') : ¬ t'.Good := by
  intro hgood
  obtain ⟨-, client, hclient, rfl⟩ := step_cases hs
  have hcopies : t.client.copies (.connect env) = false := by
    have hintact := hgood.intact
    simp only [DtlsSessions.after, left, seen, Bool.or_eq_false_iff,
      Bool.and_eq_false_iff] at hintact
    simpa [hpending] using hintact.2
  have hidle : (t.client.cleared (.connect env)).mbedtlsSend (t.client.handed (.connect env)) =
      t.client.cleared (.connect env) := by
    apply mbedtlsSend_idle
    by_cases hbuffer : t.client.sslSendBuffer = true
    · exact Or.inl hbuffer
    · right
      simpa [copies, full, hbuffer] using hcopies
  have hsame := sameSends_step hclient
  rw [seen, hidle] at hsame
  have hsending : client.sending = false := hsame.sending
  have hset := hgood.sending.mpr (by simp [DtlsSessions.after, left, hpending])
  exact absurd hset (by simp [DtlsSessions.after, hsending])

/-- After the reset of an open connection a close notify overwrites the record being sent. -/
theorem not_good_of_reset {e : DtlsClientEvent} (h : t.Sound) (hpending : t.pending ≠ [])
    (hend : t.client.endsReset e = true) (hopen : t.client.state ≠ .closing)
    (hs : dtlsSessionsStep t (.call e) = some t') :
    ∃ u, dtlsSessionsStep t' (.call (.close .taken)) = some u ∧ ¬ u.Good := by
  obtain ⟨-, client, hclient, rfl⟩ := step_cases hs
  obtain ⟨hstate, hdestroyed, hfreed, hbuffer⟩ := endsReset_step hend hclient
  have halive : client.destroyed = false := by
    rw [hdestroyed, ← Bool.not_eq_true]
    exact fun hd => hopen (h.destroyed hd)
  have hstep : dtlsClientStep client (.close .taken) = some (client.close .taken) := by
    simp [dtlsClientStep, hfreed, halive]
  have hopen' : client.state ≠ .closing := by
    rw [hstate]
    exact hopen
  have hnext : dtlsSessionsStep (t.after (.call e) client) (.call (.close .taken)) =
      some ((t.after (.call e) client).after (.call (.close .taken)) (client.close .taken)) := by
    simp [dtlsSessionsStep, enabled, seen, DtlsSessions.after, hstep]
  refine ⟨_, hnext, fun hgood => ?_⟩
  have hintact := hgood.intact
  simp [DtlsSessions.after, seen, left, copies, full, handed, hbuffer, hopen', hpending] at hintact

def isClose : DtlsSessionsEvent → Bool
  | .call (.close _) => true
  | _ => false

theorem forgetsSend_cases (h : t.forgetsSend e = true) :
    t.pending ≠ [] ∧ ((∃ env, e = .call (.connect env)) ∨
      ∃ e', e = .call e' ∧ t.client.endsReset e' = true ∧ t.client.state ≠ .closing) := by
  cases e with
  | completed rest env => cases h
  | call e =>
    cases e with
    | connect env => exact ⟨by simpa [forgetsSend] using h, Or.inl ⟨env, rfl⟩⟩
    | _ =>
      simp only [forgetsSend, Bool.and_eq_true, decide_eq_true_eq] at h
      exact ⟨h.1.1, Or.inr ⟨_, rfl, h.1.2, h.2⟩⟩

end DtlsSessions

/-- Whatever the owner does and whenever it closes the connection, `sending` tells whether a UDP
send is outstanding, the send buffer is not written while one is, and a completion counts for the
connection whose send completed, if and only if the owner connects only when no send is
outstanding and a reset ends with one outstanding only in `CLOSING`. -/
theorem udp_sends_told_iff {evs : List DtlsSessionsEvent} {s : DtlsSessions}
    (h : dtlsSessions.Run evs s) :
    (∀ pre more t, pre <+: evs → more.all DtlsSessions.isClose = true →
        dtlsSessions.Run (pre ++ more) t → t.Good) ↔
      ∀ t e, dtlsSessions.Takes evs t e → t.forgetsSend e = false := by
  refine h.safe_iff_takes DtlsSessions.isClose DtlsSessions.Sound DtlsSessions.Good _
    DtlsSessions.sound_create (fun t ht => ht.toGood) ?_ ?_ ?_
  · intro t e he
    cases e with
    | completed rest env => cases he
    | call e =>
      cases e with
      | close record => simp [DtlsSessions.forgetsSend, DtlsClient.endsReset]
      | _ => cases he
  · intro t e t' ht hq hs
    exact ht.step hq hs
  · intro t e t' ht hq hs
    obtain ⟨hpending, ⟨env, rfl⟩ | ⟨e', rfl, hend, hopen⟩⟩ :=
      DtlsSessions.forgetsSend_cases (Bool.eq_true_of_not_eq_false hq)
    · exact ⟨[], t', rfl, rfl, DtlsSessions.not_good_of_connect hpending hs⟩
    · obtain ⟨u, hu, hbad⟩ := DtlsSessions.not_good_of_reset ht hpending hend hopen hs
      refine ⟨[.call (.close .taken)], u, rfl, ?_, hbad⟩
      simpa [dtlsSessions] using hu

def redialRun : List DtlsSessionsEvent :=
  [.call (.connect { use := { record := .taken } }), .completed [] {},
    .call (.packet { handshake := .done }), .call .ret, .call (.close .taken), .completed [] {},
    .call .reset, .call .ret, .call (.connect { use := { record := .taken } })]

theorem udp_sends_told_redial :
    ∃ s, dtlsSessions.Run redialRun s ∧ s.client.sending = true ∧ s.pending = [2] ∧ s.Good := by
  have hr : dtlsSessions.Run redialRun _ := Machine.run_of_exec rfl
  have hall : dtlsSessions.allTaken
      (fun t e => !t.forgetsSend e) dtlsSessions.init redialRun = true := by
    decide +kernel
  have hgood := (udp_sends_told_iff hr).mpr fun t e ht =>
    by simpa using Machine.takes_of_allTaken hall ht
  exact ⟨_, hr, by decide +kernel, by decide +kernel,
    hgood redialRun [] _ (List.prefix_refl _) rfl hr⟩

/-- The handshake fails before the first record is sent, and the owner resets the context and
connects again. The first send completes then. -/
def lateSendRun : List DtlsSessionsEvent :=
  [.call (.connect { use := { record := .taken } }), .call (.packet { handshake := .error }),
    .call .reset, .call .ret, .call (.connect { use := { record := .taken } }), .completed [2] {}]

/-- The record of the second connection has replaced the first in the buffer, and the completion
of the first send is taken for that of the second. -/
theorem late_send_taken_for_new :
    ∃ s, dtlsSessions.Run lateSendRun s ∧ s.client.sending = false ∧ s.pending = [2] ∧
      s.overwritten = true ∧ s.mistaken = true :=
  ⟨_, Machine.run_of_exec rfl, by decide +kernel⟩

end NabtoDevice
