import NabtoDevice.Sanity.Listener

/-! Whatever is done to a listener, in any order: every accepted event is passed to the
callback once and in turn, every registered future is resolved once, and an error is
followed by `NABTO_EC_ABORTED` as the last call. -/

namespace NabtoDevice

variable {σ α φ : Type}

def passed (calls : List (ListenerCall α φ × NpErrorCode)) : List α :=
  calls.filterMap fun c => c.1.eventData

def okCalls (calls : List (ListenerCall α φ × NpErrorCode)) :
    List (ListenerCall α φ × NpErrorCode) :=
  calls.filter fun c => c.1.ec = .ok

def okResults (calls : List (ListenerCall α φ × NpErrorCode)) : List (φ × NpErrorCode) :=
  (okCalls calls).filterMap fun c => c.1.future.map fun fut => (fut, c.2)

@[simp] theorem okResults_append (c d : List (ListenerCall α φ × NpErrorCode)) :
    okResults (c ++ d) = okResults c ++ okResults d := by
  simp [okResults, okCalls]

theorem okResults_eq_nil {c : List (ListenerCall α φ × NpErrorCode)} (h : ∀ x ∈ c, x.1.ec ≠ .ok) :
    okResults c = [] := by
  have hnone : okCalls c = [] := List.filter_eq_nil_iff.mpr fun x hx => by simpa using h x hx
  rw [okResults, hnone, List.filterMap_nil]

structure ListenerContract (h : ListenerHistory σ α φ) : Prop where
  /-- An accepted event has been passed to the callback once, after those accepted before
  it, or is queued. -/
  events : passed h.seen.calls ++ h.listener.eventsList = h.accepted
  in_order : (passed (okCalls h.seen.calls)).Sublist h.accepted
  /-- A registered future has been resolved once, or is still registered. -/
  futures : h.seen.resolved.map Prod.fst ++ h.listener.fut.toList = h.registered
  /-- Futures get the results for the events delivered to them, and the one that waits
  when the listener fails gets its error. -/
  results : ∃ failed, h.seen.resolved = okResults h.seen.calls ++ failed ∧
    ∀ r ∈ failed, h.errorCodes.head? = some r.2
  aborted : h.listener.ec ≠ .ok → ∃ calls result,
    h.seen.calls = calls ++ [(⟨.aborted, none, none⟩, result)] ∧ ∀ c ∈ calls, c.1.ec ≠ .aborted
  refused : h.listener.ec ≠ .ok → ∀ (eff : ListenerEffects σ α φ) (data : α) (s : σ),
    (h.listener.addEvent eff data s).1 ≠ .ok

structure ListenerInv (h : ListenerHistory σ α φ) : Prop where
  sound : h.listener.Sound
  events : passed h.seen.calls ++ h.listener.eventsList = h.accepted
  futures : h.seen.resolved.map Prod.fst ++ h.listener.fut.toList = h.registered
  live : h.listener.ec = .ok → (∀ c ∈ h.seen.calls, c.1.ec = .ok) ∧
    h.seen.resolved = okResults h.seen.calls ∧ h.errorCodes = []
  results : ∃ failed, h.seen.resolved = okResults h.seen.calls ++ failed ∧
    ∀ r ∈ failed, h.errorCodes.head? = some r.2
  aborted : h.listener.ec ≠ .ok → ∃ calls result,
    h.seen.calls = calls ++ [(⟨.aborted, none, none⟩, result)] ∧ ∀ c ∈ calls, c.1.ec ≠ .aborted

namespace ListenerInv

variable {h : ListenerHistory σ α φ} (cb : ListenerCall α φ → σ → NpErrorCode × σ)

theorem contract (hi : ListenerInv h) : ListenerContract h where
  events := hi.events
  in_order := by
    have hok : (passed (okCalls h.seen.calls)).Sublist (passed h.seen.calls) :=
      List.filter_sublist.filterMap _
    rw [← hi.events]
    exact hok.trans (List.sublist_append_left _ _)
  futures := hi.futures
  results := hi.results
  aborted := hi.aborted
  refused hec eff data s := by
    rw [hi.sound.addEvent_failed eff hec]
    exact hec

theorem accept (hi : ListenerInv h) (hec : h.listener.ec = .ok) (data : α) :
    ListenerInv { h with
      listener := { h.listener with eventsList := h.listener.eventsList ++ [data] }
      accepted := h.accepted ++ [data] } where
  sound := hi.sound.resolved hec
  events := by
    rw [← hi.events, List.append_assoc]
  futures := hi.futures
  live := hi.live
  results := hi.results
  aborted hne := absurd hec hne

theorem tryResolve (hi : ListenerInv h) :
    ListenerInv { h with
      listener := (h.listener.tryResolve (recording cb) h.seen).1
      seen := (h.listener.tryResolve (recording cb) h.seen).2 } := by
  by_cases hec : h.listener.ec = .ok
  · rcases Listener.tryResolve_cases (recording cb) (s := h.seen) (hi.sound.live hec) with
      heq | ⟨fut, item, rest, hfut, hitems, heq⟩
    · rw [heq]
      exact hi
    · -- The call is the last one, and its result is the last one of a future.
      obtain ⟨hcalls, hres, herr⟩ := hi.live hec
      have hevents := hi.events
      have hfutures := hi.futures
      rw [hitems] at hevents
      rw [hfut, hres] at hfutures
      rw [heq]
      refine ⟨hi.sound.resolved hec, ?_, ?_, fun _ => ⟨?_, ?_, herr⟩, ⟨[], ?_, by simp⟩,
        fun hne => absurd hec hne⟩
      · simpa [Listener.deliver, recording, passed] using hevents
      · simpa [Listener.deliver, recording, hres] using hfutures
      · intro c hc
        rcases List.mem_append.mp hc with hc | hc
        · exact hcalls c hc
        · rw [List.mem_singleton.mp hc]
      · simp [Listener.deliver, recording, hres, okResults, okCalls]
      · simp [Listener.deliver, recording, hres, okResults, okCalls]
  · rw [hi.sound.tryResolve_failed _ hec]
    exact hi

theorem addEvent (hi : ListenerInv h) (data : α) :
    ListenerInv { h with
      listener := (h.listener.addEvent (recording cb) data h.seen).2.1
      seen := (h.listener.addEvent (recording cb) data h.seen).2.2
      accepted := if (h.listener.addEvent (recording cb) data h.seen).1 = .ok
        then h.accepted ++ [data] else h.accepted } := by
  by_cases hec : h.listener.ec = .ok
  · rw [hi.sound.addEvent_live _ hec]
    exact (hi.accept hec data).tryResolve cb
  · rw [hi.sound.addEvent_failed _ hec]
    simpa [hec] using hi

theorem initFuture (hi : ListenerInv h) (fut : φ) :
    ListenerInv { h with
      listener := (h.listener.initFuture fut).2
      registered := if (h.listener.initFuture fut).1 = .ok
        then h.registered ++ [fut] else h.registered } := by
  by_cases hec : h.listener.ec = .ok
  · cases hfut : h.listener.fut with
    | some old =>
      rw [hi.sound.initFuture_busy hec (by simp [hfut])]
      exact hi
    | none =>
      have hfutures := hi.futures
      rw [hfut] at hfutures
      rw [hi.sound.initFuture_free hec hfut]
      refine ⟨hi.sound.resolved hec, hi.events, ?_, hi.live, hi.results, fun hne => absurd hec hne⟩
      rw [← hfutures]
      simp
  · rw [hi.sound.initFuture_failed hec]
    simpa [hec] using hi

end ListenerInv

variable (cb : ListenerCall α φ → σ → NpErrorCode × σ) {ec : NpErrorCode}

/-- The queue is drained from the front: the calls made are one for each item, in turn. -/
theorem drain_recorded (hec : ec ≠ .ok) (items : List α) (s : Recorded σ α φ) :
    ∃ added, passed added = items ∧ (∀ c ∈ added, c.1.ec ≠ .ok ∧ c.1.ec ≠ .aborted) ∧
      (Listener.drain (recording cb) ec items s).calls = s.calls ++ added ∧
      (Listener.drain (recording cb) ec items s).resolved = s.resolved := by
  induction items generalizing s with
  | nil => exact ⟨[], rfl, by simp, by simp [Listener.drain], rfl⟩
  | cons item items ih =>
    obtain ⟨added, hpassed, hadded, hcalls, hres⟩ := ih
      ((recording cb).cb ⟨if ec = .aborted then .stopped else ec, none, some item⟩ s).2
    refine ⟨(⟨if ec = .aborted then .stopped else ec, none, some item⟩,
      (cb ⟨if ec = .aborted then .stopped else ec, none,
        some item⟩ s.user).1) :: added, ?_, ?_, ?_, hres⟩
    · simpa [passed] using hpassed
    · intro c hc
      rcases List.mem_cons.mp hc with rfl | hc
      · exact Listener.drain_code_ne hec
      · exact hadded c hc
    · refine hcalls.trans ?_
      simp [recording]

theorem fail_recorded (hec : ec ≠ .ok) (items : List α) (fut : Option φ) (s : Recorded σ α φ) :
    ∃ added result, passed added = items ∧ (∀ c ∈ added, c.1.ec ≠ .ok ∧ c.1.ec ≠ .aborted) ∧
      (Listener.fail (recording cb) items fut ec s).calls =
        s.calls ++ added ++ [(⟨.aborted, none, none⟩, result)] ∧
      (Listener.fail (recording cb) items fut ec s).resolved =
        s.resolved ++ fut.toList.map fun fut => (fut, ec) := by
  obtain ⟨added, hpassed, hadded, hcalls, hres⟩ := drain_recorded cb hec items s
  refine ⟨added, (cb ⟨.aborted, none, none⟩ (Listener.drain (recording cb) ec items s).user).1,
    hpassed, hadded, ?_, ?_⟩
  · rw [← hcalls]
    cases fut <;> simp [Listener.fail, recording]
  · rw [← hres]
    cases fut <;> simp [Listener.fail, recording]

namespace ListenerInv

variable {h : ListenerHistory σ α φ} (cb : ListenerCall α φ → σ → NpErrorCode × σ)

theorem fail (hi : ListenerInv h) (hlive : h.listener.ec = .ok) (hec : ec ≠ .ok) :
    ListenerInv { h with
      listener := (h.listener.setErrorCode (recording cb) ec h.seen).1
      seen := (h.listener.setErrorCode (recording cb) ec h.seen).2
      errorCodes := h.errorCodes ++ [ec] } := by
  obtain ⟨hcalls, hres, herr⟩ := hi.live hlive
  have hsound := (hi.sound.fails _ (hi.sound.setErrorCode_fails (recording cb) (s := h.seen) hec)).1
  rw [hi.sound.setErrorCode_live _ hlive] at hsound ⊢
  obtain ⟨added, result, hpassed, hcodes, hnew, hresolved⟩ :=
    fail_recorded cb hec h.listener.eventsList h.listener.fut h.seen
  have hadded : okResults (added ++ [(⟨.aborted, none, none⟩, result)]) = [] := by
    apply okResults_eq_nil
    intro c hc
    rcases List.mem_append.mp hc with hc | hc
    · exact (hcodes c hc).1
    · rw [List.mem_singleton.mp hc]
      simp
  refine ⟨hsound, ?_, ?_, fun hok => absurd hok hec,
    ⟨h.listener.fut.toList.map fun fut => (fut, ec), ?_, ?_⟩,
    fun _ => ⟨h.seen.calls ++ added, result, hnew, ?_⟩⟩
  · show passed _ ++ [] = _
    rw [hnew, ← hi.events]
    simpa [passed] using hpassed
  · show List.map Prod.fst _ ++ [] = _
    rw [hresolved, ← hi.futures]
    simp [Function.comp_def]
  · show _ = okResults _ ++ _
    rw [hresolved, hnew, List.append_assoc, okResults_append, hadded, ← hres, List.append_nil]
  · intro r hr
    obtain ⟨fut, -, rfl⟩ := List.mem_map.mp hr
    rw [herr]
    rfl
  · intro c hc
    rcases List.mem_append.mp hc with hc | hc
    · rw [hcalls c hc]
      simp
    · exact (hcodes c hc).2

theorem setErrorCode (hi : ListenerInv h) (hec : ec ≠ .ok) :
    ListenerInv { h with
      listener := (h.listener.setErrorCode (recording cb) ec h.seen).1
      seen := (h.listener.setErrorCode (recording cb) ec h.seen).2
      errorCodes := h.errorCodes ++ [ec] } := by
  by_cases hlive : h.listener.ec = .ok
  · exact hi.fail cb hlive hec
  · have hsound :=
      (hi.sound.fails _ (hi.sound.setErrorCode_fails (recording cb) (s := h.seen) hec)).1
    rw [hi.sound.setErrorCode_failed _ hlive] at hsound ⊢
    obtain ⟨failed, hfailed, hcode⟩ := hi.results
    refine ⟨hsound, hi.events, hi.futures, fun hok => absurd hok hec, ⟨failed, hfailed, ?_⟩,
      fun _ => hi.aborted hlive⟩
    intro r hr
    rw [List.head?_append, hcode r hr]
    rfl

theorem stop (hi : ListenerInv h) :
    ListenerInv { h with
      listener := (h.listener.stop (recording cb) h.seen).2.1
      seen := (h.listener.stop (recording cb) h.seen).2.2
      errorCodes := if h.listener.ec = .ok
        then h.errorCodes ++ [(h.listener.stop (recording cb) h.seen).1] else h.errorCodes } := by
  by_cases hlive : h.listener.ec = .ok
  · rw [hi.sound.stop_live _ hlive, if_pos hlive]
    exact hi.fail cb hlive (by simp)
  · rw [hi.sound.stop_failed _ hlive, if_neg hlive]
    exact hi

end ListenerInv

theorem listenerStep_inv (h : ListenerHistory σ α φ) (e : ListenerEvent α φ)
    (h' : ListenerHistory σ α φ)
    (hi : ListenerInv h) (hs : listenerStep cb h e = some h') : ListenerInv h' := by
  cases e with
  | addEvent data =>
    cases hs
    exact hi.addEvent cb data
  | initFuture fut =>
    cases hs
    exact hi.initFuture fut
  | tryResolve =>
    cases hs
    exact hi.tryResolve cb
  | stop =>
    cases hs
    exact hi.stop cb
  | setErrorCode ec =>
    obtain ⟨hec, rfl⟩ := Machine.of_guard_not hs
    exact hi.setErrorCode cb hec

theorem listenerHistory_inv {cb : ListenerCall α φ → σ → NpErrorCode × σ} {user : σ}
    {evs : List (ListenerEvent α φ)} {h : ListenerHistory σ α φ}
    (hr : (listenerHistory cb user).Run evs h) : ListenerInv h := by
  refine hr.invariant ListenerInv ?_ (listenerStep_inv cb)
  exact ⟨Listener.sound_init, rfl, rfl, fun _ => ⟨by simp [listenerHistory], rfl, rfl⟩,
    ⟨[], rfl, by simp⟩, fun hne => absurd rfl hne⟩

/-- Nothing more comes from a listener that has failed: `h` is its state then. -/
structure Silent (h t : ListenerHistory σ α φ) : Prop where
  inv : ListenerInv t
  failed : t.listener.ec ≠ .ok
  accepted : t.accepted = h.accepted
  calls : t.seen.calls = h.seen.calls

theorem listenerStep_silent {cb : ListenerCall α φ → σ → NpErrorCode × σ}
    {h : ListenerHistory σ α φ} (t : ListenerHistory σ α φ) (e : ListenerEvent α φ)
    (t' : ListenerHistory σ α φ) (hi : Silent h t) (hs : listenerStep cb t e = some t') :
    Silent h t' := by
  have hinv := listenerStep_inv cb t e t' hi.inv hs
  have hsound := hi.inv.sound
  cases e with
  | addEvent data =>
    simp only [listenerStep, hsound.addEvent_failed _ hi.failed, if_neg hi.failed] at hs
    cases hs
    exact hi
  | initFuture fut =>
    simp only [listenerStep, hsound.initFuture_failed hi.failed, if_neg hi.failed] at hs
    cases hs
    exact hi
  | tryResolve =>
    simp only [listenerStep, hsound.tryResolve_failed _ hi.failed] at hs
    cases hs
    exact hi
  | stop =>
    simp only [listenerStep, hsound.stop_failed _ hi.failed, if_neg hi.failed] at hs
    cases hs
    exact hi
  | setErrorCode ec =>
    obtain ⟨hec, hs⟩ := Option.ite_none_left_eq_some.mp hs
    simp only [hsound.setErrorCode_failed _ hi.failed] at hs
    cases hs
    exact ⟨hinv, hec, hi.accepted, hi.calls⟩

/-- The contract holds over every run, and after an error no event is accepted and the callback is
not called again. -/
theorem listener_contract (cb : ListenerCall α φ → σ → NpErrorCode × σ) (user : σ)
    {evs : List (ListenerEvent α φ)} {h : ListenerHistory σ α φ}
    (hr : (listenerHistory cb user).Run evs h) :
    ListenerContract h ∧
      ∀ more t, (listenerHistory cb user).Run (evs ++ more) t → h.listener.ec ≠ .ok →
        t.listener.ec ≠ .ok ∧ t.accepted = h.accepted ∧ t.seen.calls = h.seen.calls := by
  have hi := listenerHistory_inv hr
  refine ⟨hi.contract, fun more t ht hec => ?_⟩
  have hsilent := hr.invariant_from (Silent h) listenerStep_silent ⟨hi, hec, rfl, rfl⟩ ht
  exact ⟨hsilent.failed, hsilent.accepted, hsilent.calls⟩

/-- One event is delivered to a future; then the listener is aborted with two more in its
queue, and a last one is refused. -/
theorem listener_contract_aborted :
    ∃ h : ListenerHistory Unit ℕ ℕ,
      (listenerHistory (fun _ _ => (.ok, ())) ()).Run
        [.addEvent 1, .initFuture 7, .tryResolve, .addEvent 2, .addEvent 3,
          .setErrorCode .aborted, .stop, .addEvent 4] h ∧
      h.seen.calls = [(⟨.ok, some 7, some 1⟩, .ok), (⟨.stopped, none, some 2⟩, .ok),
        (⟨.stopped, none, some 3⟩, .ok), (⟨.aborted, none, none⟩, .ok)] ∧
      h.accepted = [1, 2, 3] ∧ ListenerContract h := by
  have hr : (listenerHistory (σ := Unit) (α := ℕ) (φ := ℕ) (fun _ _ => (.ok, ())) ()).Run
      [.addEvent 1, .initFuture 7, .tryResolve, .addEvent 2, .addEvent 3,
        .setErrorCode .aborted, .stop, .addEvent 4] _ := Machine.run_of_exec rfl
  exact ⟨_, hr, rfl, rfl, (listener_contract _ _ hr).1⟩

end NabtoDevice
