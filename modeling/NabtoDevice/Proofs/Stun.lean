import NabtoDevice.Spec.Stun

/-! The state `running` of the STUN module over its runs. An analysis that completes or
whose host name cannot be resolved leaves it, while the error exits of `nc_stun_event`
resolve the callbacks and stay in it. -/

namespace NabtoDevice

def NcStun.InProgress (ctx : NcStun) : Prop := ctx.history.head? = some .started

structure RunningInProgress (ctx : NcStun) : Prop where
  running : ctx.state = .running → ctx.InProgress
  /-- The callback of a successful call waits for an analysis that is in progress. -/
  analyze : ∀ simple cb, (ncStunAsyncAnalyze ctx simple cb).1 = .ok →
    (ncStunAsyncAnalyze ctx simple cb).2.InProgress

/-- The engine asks for an error exit of `nc_stun_event`: the analysis has failed, or a
packet has no socket or no endpoint to be sent to. -/
def takesErrorExit (ctx : NcStun) (answer : StunAnswer) : Bool :=
  match answer.nextEvent with
  | .failed => true
  | .sendPrimary => ctx.priUdp.isNone || answer.endpoint.isNone
  | .sendSecondary => ctx.secUdp.isNone || answer.endpoint.isNone
  | _ => false

def failsWhileRunning (ctx : NcStun) : StunEvent → Bool
  | .packet answer | .sendCompletion answer | .timeout answer =>
    ctx.state == .running && takesErrorExit ctx answer
  | .dnsCompletion answer =>
    ctx.state == .running && ctx.dnsMultiResolver.resolvedCompletionEvent == some .ok &&
      takesErrorExit ctx answer
  | _ => false

theorem resolveCallbacks_not_inProgress (ctx : NcStun) :
    ¬ (ncStunResolveCallbacks ctx).InProgress := by
  simp [NcStun.InProgress, ncStunResolveCallbacks]

theorem asyncAnalyze_inProgress {ctx : NcStun} (h : ctx.state = .running → ctx.InProgress)
    (simple : Bool) (cb : ℕ)
    (hnew : (ncStunAsyncAnalyze ctx simple cb).1 = .ok ∨
      (ncStunAsyncAnalyze ctx simple cb).2.state = .running) :
    (ncStunAsyncAnalyze ctx simple cb).2.InProgress := by
  revert hnew
  unfold ncStunAsyncAnalyze
  split
  · next haborted =>
    intro hnew
    simp [haborted] at hnew
  split
  · intro hnew
    exact h (by simpa using hnew)
  split
  · intro hnew
    exact h (by simpa using hnew)
  · dsimp only
    split
    · next hrunning =>
      intro _
      exact h hrunning
    · intro _
      rfl

theorem runningInProgress_iff (ctx : NcStun) :
    RunningInProgress ctx ↔ (ctx.state = .running → ctx.InProgress) := by
  constructor
  · intro h
    exact h.running
  · intro h
    exact ⟨h, fun simple cb hok => asyncAnalyze_inProgress h simple cb (Or.inl hok)⟩

/-- A send that cannot be made resolves the callbacks, and another one changes neither the
state nor the history. -/
theorem stunSend_cases (ctx : NcStun) (udp : Option ℕ) (answer : StunAnswer) :
    (ncStunSend ctx udp answer).state = ctx.state ∧
      ((udp.isNone || answer.endpoint.isNone) = true →
        ¬ (ncStunSend ctx udp answer).InProgress) ∧
      ((udp.isNone || answer.endpoint.isNone) = false →
        (ncStunSend ctx udp answer).history = ctx.history) := by
  unfold ncStunSend
  cases udp with
  | none => exact ⟨rfl, fun _ => resolveCallbacks_not_inProgress _, by simp⟩
  | some sock =>
    cases answer.endpoint with
    | none => exact ⟨rfl, fun _ => resolveCallbacks_not_inProgress _, by simp⟩
    | some ep => exact ⟨rfl, by simp, fun _ => rfl⟩

/-- An exit that keeps the state, and resolves the callbacks exactly on an error, keeps an
analysis in progress exactly if there is no error in the state `running`. -/
theorem exit_iff {ctx ctx' : NcStun} {answer : StunAnswer}
    (h : ctx.state = .running → ctx.InProgress) (hstate : ctx'.state = ctx.state)
    (hbad : takesErrorExit ctx answer = true → ¬ ctx'.InProgress)
    (hok : takesErrorExit ctx answer = false → ctx'.history = ctx.history) :
    (ctx'.state = .running → ctx'.InProgress) ↔
      (ctx.state == .running && takesErrorExit ctx answer) = false := by
  rw [hstate]
  cases hexit : takesErrorExit ctx answer with
  | true => simp [hbad hexit]
  | false => simpa [NcStun.InProgress, hok hexit] using h

theorem stunEvent_iff {ctx : NcStun} (h : ctx.state = .running → ctx.InProgress)
    (answer : StunAnswer) :
    ((ncStunEvent ctx answer).state = .running → (ncStunEvent ctx answer).InProgress) ↔
      (ctx.state == .running && takesErrorExit ctx answer) = false := by
  cases hnext : answer.nextEvent with
  | sendPrimary =>
    have hexit : takesErrorExit ctx answer = (ctx.priUdp.isNone || answer.endpoint.isNone) := by
      simp only [takesErrorExit, hnext]
    obtain ⟨hstate, hbad, hok⟩ := stunSend_cases { ctx with toEv := none } ctx.priUdp answer
    simp only [ncStunEvent, hnext]
    exact exit_iff h hstate (hexit ▸ hbad) (hexit ▸ hok)
  | sendSecondary =>
    have hexit : takesErrorExit ctx answer = (ctx.secUdp.isNone || answer.endpoint.isNone) := by
      simp only [takesErrorExit, hnext]
    obtain ⟨hstate, hbad, hok⟩ := stunSend_cases { ctx with toEv := none } ctx.secUdp answer
    simp only [ncStunEvent, hnext]
    exact exit_iff h hstate (hexit ▸ hbad) (hexit ▸ hok)
  | failed =>
    simp only [ncStunEvent, hnext]
    apply exit_iff h
    · rfl
    · exact fun _ => resolveCallbacks_not_inProgress _
    · simp [takesErrorExit, hnext]
  | completed => simp [ncStunEvent, hnext, ncStunResolveCallbacks, takesErrorExit]
  | wait | noEvent | other =>
    simp only [ncStunEvent, hnext]
    apply exit_iff h
    · rfl
    · simp [takesErrorExit, hnext]
    · exact fun _ => rfl

theorem stunStep_iff {ctx ctx' : NcStun} {e : StunEvent} (h : RunningInProgress ctx)
    (hs : stunStep ctx e = some ctx') :
    RunningInProgress ctx' ↔ failsWhileRunning ctx e = false := by
  rw [runningInProgress_iff] at h ⊢
  cases e with
  | setSockets udp secondaryUdp =>
    cases hs
    exact iff_of_true h rfl
  | removeSockets =>
    cases hs
    exact iff_of_true h rfl
  | setHost hostname port =>
    cases hs
    exact iff_of_true h rfl
  | analyze simple cb =>
    cases hs
    exact iff_of_true (fun hr => asyncAnalyze_inProgress h simple cb (Or.inr hr)) rfl
  | packet answer =>
    cases hs
    unfold ncStunHandlePacket
    split
    · next haborted => exact iff_of_true h (by simp [failsWhileRunning, haborted])
    · exact stunEvent_iff h answer
  | dns e =>
    obtain ⟨r, -, rfl⟩ := Option.map_eq_some_iff.mp hs
    exact iff_of_true h rfl
  | dnsCompletion answer =>
    obtain ⟨ec, hec, rfl⟩ := Option.map_eq_some_iff.mp hs
    unfold ncStunDnsCb
    split
    · next haborted =>
      have haborted : ctx.state = .aborted := haborted
      exact iff_of_true (by simp [ncStunResolveCallbacks, haborted])
        (by simp [failsWhileRunning, haborted])
    split
    · next hne =>
      exact iff_of_true (by simp [ncStunResolveCallbacks]) (by simp [failsWhileRunning, hec, hne])
    · next hok =>
      rw [stunEvent_iff (by exact h)]
      simp only [ne_eq, Decidable.not_not] at hok
      simp [failsWhileRunning, hec, hok, takesErrorExit]
  | udpSent =>
    simp only [stunStep] at hs
    split at hs
    · cases hs
    · cases hs
      exact iff_of_true h rfl
  | sendCompletion answer =>
    obtain ⟨-, rfl⟩ := Machine.of_guard hs
    exact stunEvent_iff (by exact h) answer
  | timeout answer =>
    obtain ⟨_, -, rfl⟩ := Option.map_eq_some_iff.mp hs
    exact stunEvent_iff (by exact h) answer
  | deinit =>
    obtain ⟨-, rfl⟩ := Machine.of_guard_not hs
    exact iff_of_true (by simp [ncStunDeinit]) rfl

/-- Over every run of the STUN module an analysis is in progress whenever the state is
`running`, so that a call of `nc_stun_async_analyze` that succeeds waits for one, if and
only if no error exit of `nc_stun_event` is taken in the state `running`. -/
theorem running_in_progress_iff {evs : List StunEvent} {s : NcStun} (h : stun.Run evs s) :
    (∀ t, stun.Visits evs t → RunningInProgress t) ↔
      ∀ t e, stun.Takes evs t e → failsWhileRunning t e = false := by
  have hinit : RunningInProgress ncStunInit := by
    rw [runningInProgress_iff]
    intro hrunning
    cases hrunning
  exact h.good_iff_takes (fun _ => True) RunningInProgress
    (fun t e => failsWhileRunning t e = false)
    trivial hinit fun t e t' _ hgood hs => ⟨stunStep_iff hgood hs, fun _ => trivial⟩

def resolvedRun : List StunEvent :=
  [.setSockets 0 1, .setHost "stun" 3478, .analyze true 0,
   .dns (.v4Answer .ok [.v4 [10, 0, 0, 1]]), .dns (.v6Answer .unknown []),
   .dns .v4Completion, .dns .v6Completion]

def completedRun : List StunEvent :=
  resolvedRun ++
    [.dnsCompletion { nextEvent := .sendPrimary, endpoint := some ⟨.v4 [10, 0, 0, 1], 3478⟩ },
     .udpSent, .sendCompletion { nextEvent := .wait, timeoutMs := 500 },
     .packet { nextEvent := .completed, extEp := some ⟨.v4 [1, 2, 3, 4], 5⟩ }, .analyze true 1]

theorem running_in_progress_completed :
    (∃ s, stun.Run completedRun s ∧ s.history = [.started, .resolved [0] .ok, .started]) ∧
    ∀ t, stun.Visits completedRun t → RunningInProgress t := by
  have hrun : ∃ s, stun.Run completedRun s ∧
      s.history = [.started, .resolved [0] .ok, .started] :=
    ⟨_, Machine.run_of_exec rfl, by decide +kernel⟩
  refine ⟨hrun, ?_⟩
  obtain ⟨s, hs, -⟩ := hrun
  rw [running_in_progress_iff hs]
  intro t e ht
  have hall : stun.allTaken (fun t e => !failsWhileRunning t e) stun.init completedRun = true := by
    decide +kernel
  exact Machine.takes_eq_false_of_allTaken hall ht

/-- An analysis that has failed leaves the state `running`. The next one returns `NABTO_EC_OK`
and waits for nothing: no query, timer or packet is outstanding. -/
theorem analysis_parked_after_failure :
    ∃ s, stun.Run (resolvedRun ++ [.dnsCompletion { nextEvent := .failed }]) s ∧
      s.state = .running ∧ s.history = [.resolved [0] .unknown, .started] ∧
      (ncStunAsyncAnalyze s true 1).1 = .ok ∧
      (ncStunAsyncAnalyze s true 1).2.cbs.head? = some (some 1) ∧
      (ncStunAsyncAnalyze s true 1).2.toEv = none ∧
      (ncStunAsyncAnalyze s true 1).2.udpSends = [] ∧
      (ncStunAsyncAnalyze s true 1).2.sendCompletionEvent = false ∧
      (ncStunAsyncAnalyze s true 1).2.dnsMultiResolver.v4.outstanding = 0 ∧
      (ncStunAsyncAnalyze s true 1).2.dnsMultiResolver.v6.outstanding = 0 ∧
      (ncStunAsyncAnalyze s true 1).2.dnsMultiResolver.resolvedCompletionEvent = none ∧
      ¬ RunningInProgress s := by
  refine ⟨_, Machine.run_of_exec rfl, by decide +kernel, by decide +kernel, by decide +kernel,
    by decide +kernel, by decide +kernel, by decide +kernel, by decide +kernel, by decide +kernel,
    by decide +kernel, by decide +kernel, ?_⟩
  intro hgood
  have hprogress := hgood.running (by decide +kernel)
  exact absurd hprogress (by unfold NcStun.InProgress; decide +kernel)

end NabtoDevice
