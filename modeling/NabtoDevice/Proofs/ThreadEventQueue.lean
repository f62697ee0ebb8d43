import NabtoDevice.Sanity.EventQueue
import NabtoDevice.Spec.ThreadEventQueue

/-! Events that are withdrawn while the queue thread runs. The thread takes an event off
the queue under one mutex and executes it under another one. In between the event is in no
list, so cancelling it finds nothing to cancel. -/

namespace NabtoDevice

/-- The steps of the mutexes and of the queue thread, which the callers of the interface
cannot prevent. -/
def ThreadQueueEvent.isThread {α : Type*} : ThreadQueueEvent α → Bool
  | .lockCore | .unlockCore | .turn _ | .execute | .executed => true
  | _ => false

namespace ThreadEventQueue

variable {α : Type*} {overflow : UInt32 → UInt32 → Bool} {s s' : ThreadEventQueue α}

/-- No withdrawn event was executed and no event used that is not allocated. -/
structure Clean (s : ThreadEventQueue α) : Prop where
  invokedLate : s.invokedLate = false
  badAccess : s.badAccess = false

/-- The queue holds an agenda of events that are allocated and not withdrawn, and so is the
event that the thread is about to execute. -/
structure Sound (s : ThreadEventQueue α) (m : Agenda α) : Prop where
  clean : s.Clean
  holds : s.eventQueue.Holds m
  pending : ∀ a, m.pending a ≠ none → s.memory a = .allocated ∧ s.withdrawn a = false
  taken : ∀ a, s.queueThread = .taken a → s.memory a = .allocated ∧ s.withdrawn a = false

/-- The call withdraws the event that the thread has taken and not executed yet. -/
def withdrawsTaken [DecidableEq α] (s : ThreadEventQueue α) : ThreadQueueEvent α → Bool
  | .cancel event | .destroy event => s.queueThread = .taken event
  | _ => false

theorem Sound.walk {m : Agenda α} (h : s.Sound m) : s.walk = s := by
  have hnone : ((s.eventQueue.events ++ s.eventQueue.timedEvents).any
      fun event => s.memory event ≠ .allocated) = false := by
    rw [List.any_eq_false]
    intro a ha
    simp [(h.pending a (h.holds.mem_iff.mp ha)).1]
  unfold ThreadEventQueue.walk
  rw [hnone, Bool.or_false]

theorem sound_init (stamps : α → UInt32) : (init stamps).Sound Agenda.empty :=
  ⟨⟨rfl, rfl⟩, Agenda.heldBy_empty, fun _ ha => absurd rfl ha, fun _ ha => by cases ha⟩

theorem coreMutex_of_taken {event : α} (hthread : s.queueThread = .taken event)
    (hcore : s.coreHeld = true) : s.coreMutex = true := by
  simpa [coreHeld, hthread] using hcore

variable [DecidableEq α]

/-- An event is posted: what is pending was so before or is that event. -/
theorem Sound.posted {m m' : Agenda α} (h : s.Sound m) {event : α} {queue : NmEventQueue α}
    (hlive : s.memory event = .allocated) (hholds : queue.Holds m')
    (hpending : ∀ a, a ≠ event → m'.pending a ≠ none → m.pending a ≠ none) :
    (s.posted event queue).Sound m' := by
  have hunchanged {a : α} (ha : s.memory a = .allocated ∧ s.withdrawn a = false) :
      s.memory a = .allocated ∧ Function.update s.withdrawn event false a = false := by
    refine ⟨ha.1, ?_⟩
    by_cases hne : a = event
    · rw [hne, Function.update_self]
    · rw [Function.update_of_ne hne, ha.2]
  unfold ThreadEventQueue.posted
  rw [h.walk]
  refine ⟨⟨h.clean.1, h.clean.2⟩, hholds, fun a ha => ?_, fun a ha => hunchanged (h.taken a ha)⟩
  by_cases hne : a = event
  · rw [hne]
    exact ⟨hlive, Function.update_self ..⟩
  · exact hunchanged (h.pending a (hpending a hne ha))

theorem pending_of_post {m : Agenda α} {event a : α} (hne : a ≠ event)
    (ha : (m.post event).pending a ≠ none) : m.pending a ≠ none := by
  unfold Agenda.post at ha
  split_ifs at ha
  · exact ha
  · rwa [Agenda.giveTurn_pending_of_ne hne] at ha

/-- Both ways to withdraw an event that the thread has not taken. -/
theorem Sound.withdrawn {m : Agenda α} (h : s.Sound m) {event : α}
    (htaken : s.queueThread ≠ .taken event)
    {memory : α → NpEventMemory} (hmemory : ∀ a, a ≠ event → memory a = s.memory a) :
    Sound
      { s.walk with
        eventQueue := s.eventQueue.cancelEvent event
        withdrawn := Function.update s.withdrawn event true
        memory := memory } (m.drop event) := by
  have hother {a : α} (hne : a ≠ event) (ha : s.memory a = .allocated ∧ s.withdrawn a = false) :
      memory a = .allocated ∧ Function.update s.withdrawn event true a = false := by
    rw [hmemory a hne, Function.update_of_ne hne]
    exact ha
  rw [h.walk]
  refine ⟨⟨h.clean.1, h.clean.2⟩, h.holds.cancelEvent event, fun a ha => ?_, fun a ha => ?_⟩
  · obtain ⟨x, hx⟩ := Option.ne_none_iff_exists'.mp ha
    obtain ⟨hne, hx⟩ := Agenda.pending_of_drop hx
    exact hother hne (h.pending a (by simp [hx]))
  · have hne : a ≠ event := by
      rintro rfl
      exact htaken ha
    exact hother hne (h.taken a ha)

/-- An event that is taken off the queue is the one that will be executed. -/
theorem Sound.take {m : Agenda α} (h : s.Sound m) {event : α} (hpending : m.pending event ≠ none) :
    Sound { s.walk with eventQueue := s.eventQueue.eraseNode event, queueThread := .taken event }
      (m.drop event) := by
  rw [h.walk]
  refine ⟨⟨h.clean.1, h.clean.2⟩, h.holds.eraseNode event, fun a ha => ?_, fun a ha => ?_⟩
  · obtain ⟨x, hx⟩ := Option.ne_none_iff_exists'.mp ha
    exact h.pending a (by simp [(Agenda.pending_of_drop hx).2])
  · obtain rfl : event = a := by simpa using ha
    exact h.pending event hpending

theorem Sound.takeTurn {m : Agenda α} (h : s.Sound m) (now : UInt32) :
    ∃ m', (s.takeTurn overflow now).Sound m' := by
  unfold ThreadEventQueue.takeTurn queueThreadTurn
  cases htake : s.eventQueue.takeEvent with
  | some taken =>
    obtain ⟨event, queue⟩ := taken
    obtain ⟨⟨n, hn, -⟩, rfl⟩ := h.holds.takeEvent htake
    exact ⟨_, h.take (by simp [hn])⟩
  | none =>
    cases htimed : s.eventQueue.takeTimedEvent overflow now with
    | some taken =>
      obtain ⟨event, queue⟩ := taken
      obtain ⟨hmem, rfl⟩ := h.holds.takeTimedEvent htimed
      exact ⟨_, h.take (h.holds.mem_iff.mp (List.mem_append_right _ hmem))⟩
    | none =>
      cases s.eventQueue.nextTimedEvent with
      | some nextEvent =>
        dsimp only
        rw [h.walk]
        exact ⟨m, h⟩
      | none =>
        cases s.stopped with
        | false =>
          dsimp only
          rw [h.walk]
          exact ⟨m, h⟩
        | true =>
          dsimp only
          rw [h.walk]
          exact ⟨m, ⟨h.clean.1, h.clean.2⟩, h.holds, h.pending, fun a ha => by cases ha⟩

theorem Sound.create {m : Agenda α} (h : s.Sound m) {event : α}
    (hunused : s.memory event = .unused) :
    Sound { s with memory := Function.update s.memory event .allocated } m := by
  have hother {a : α} (ha : s.memory a = .allocated ∧ s.withdrawn a = false) :
      Function.update s.memory event .allocated a = .allocated ∧ s.withdrawn a = false := by
    by_cases hne : a = event
    · rw [hne, hunused] at ha
      cases ha.1
    · rw [Function.update_of_ne hne]
      exact ha
  exact ⟨⟨h.clean.1, h.clean.2⟩, h.holds, fun a ha => hother (h.pending a ha),
    fun a ha => hother (h.taken a ha)⟩

omit [DecidableEq α] in
/-- The event that the thread has taken is neither withdrawn nor freed when it is executed. -/
theorem Sound.invoke {m : Agenda α} (h : s.Sound m) {event : α}
    (hthread : s.queueThread = .taken event) : (s.invoke event).Sound m := by
  obtain ⟨hlive, hwithdrawn⟩ := h.taken event hthread
  refine ⟨⟨?_, ?_⟩, h.holds, h.pending, fun a ha => by cases ha⟩
  · simp [ThreadEventQueue.invoke, h.clean.1, hwithdrawn]
  · simp [ThreadEventQueue.invoke, h.clean.2, hlive]

theorem sound_step {e : ThreadQueueEvent α} (h : ∃ m, s.Sound m) (he : s.withdrawsTaken e = false)
    (hs : s.step overflow e = some s') : ∃ m, s'.Sound m := by
  obtain ⟨m, h⟩ := h
  cases e with
  | create event =>
    obtain ⟨hunused, rfl⟩ := Machine.of_guard hs
    exact ⟨m, h.create hunused⟩
  | destroy event =>
    obtain ⟨-, rfl⟩ := Machine.of_guard hs
    exact ⟨_, h.withdrawn (by simpa [withdrawsTaken] using he)
      fun a hne => Function.update_of_ne hne ..⟩
  | post event =>
    obtain ⟨hlive, rfl⟩ := Machine.of_guard hs
    exact ⟨_, h.posted hlive (h.holds.appendEvent event) fun _ => pending_of_post⟩
  | postMaybeDouble event =>
    obtain ⟨hlive, rfl⟩ := Machine.of_guard hs
    exact ⟨_, h.posted hlive (h.holds.appendEvent event) fun _ => pending_of_post⟩
  | postTimed event now milliseconds =>
    obtain ⟨hlive, rfl⟩ := Machine.of_guard hs
    refine ⟨_, h.posted hlive (h.holds.postTimedEvent event _) fun a hne ha => ?_⟩
    rwa [Agenda.postTimed_pending_of_ne hne] at ha
  | cancel event =>
    obtain ⟨-, rfl⟩ := Machine.of_guard hs
    exact ⟨_, h.withdrawn (by simpa [withdrawsTaken] using he) fun a _ => by rw [h.walk]⟩
  | stopBlocking =>
    cases hs
    exact ⟨m, ⟨h.clean.1, h.clean.2⟩, h.holds, h.pending, h.taken⟩
  | lockCore =>
    obtain ⟨-, rfl⟩ := Machine.of_guard_not hs
    exact ⟨m, ⟨h.clean.1, h.clean.2⟩, h.holds, h.pending, h.taken⟩
  | unlockCore =>
    obtain ⟨-, rfl⟩ := Machine.of_guard hs
    exact ⟨m, ⟨h.clean.1, h.clean.2⟩, h.holds, h.pending, h.taken⟩
  | turn now =>
    simp only [step] at hs
    split at hs
    · cases hs
      exact h.takeTurn now
    · cases hs
  | execute =>
    simp only [step] at hs
    split at hs
    · next event hthread =>
      obtain ⟨-, rfl⟩ := Machine.of_guard_not hs
      exact ⟨m, h.invoke hthread⟩
    · cases hs
  | executed =>
    simp only [step] at hs
    split at hs
    · cases hs
      exact ⟨m, ⟨h.clean.1, h.clean.2⟩, h.holds, h.pending, fun a ha => by cases ha⟩
    · cases hs

/-- Nothing keeps the thread from executing the event it has taken. -/
theorem executes_withdrawn (event : α) (hthread : s.queueThread = .taken event)
    (hcore : s.coreMutex = true) (hwithdrawn : s.withdrawn event = true) :
    ∃ t, [.unlockCore, .execute].foldlM (step overflow) s = some t ∧ ¬ t.Clean := by
  refine ⟨invoke { s with coreMutex := false } event, ?_, fun hclean => ?_⟩
  · simp [step, hthread, hcore]
  · have hlate := hclean.invokedLate
    simp [invoke, hwithdrawn] at hlate

theorem late_of_withdrawsTaken {e : ThreadQueueEvent α} (he : ¬ s.withdrawsTaken e = false)
    (hs : s.step overflow e = some s') :
    ∃ t, [.unlockCore, .execute].foldlM (step overflow) s' = some t ∧ ¬ t.Clean := by
  cases e with
  | cancel event =>
    obtain ⟨⟨-, hheld⟩, rfl⟩ := Machine.of_guard hs
    have hthread : s.queueThread = .taken event := by simpa [withdrawsTaken] using he
    exact executes_withdrawn event hthread (coreMutex_of_taken hthread hheld)
      (Function.update_self ..)
  | destroy event =>
    obtain ⟨⟨-, hheld⟩, rfl⟩ := Machine.of_guard hs
    have hthread : s.queueThread = .taken event := by simpa [withdrawsTaken] using he
    exact executes_withdrawn event hthread (coreMutex_of_taken hthread hheld)
      (Function.update_self ..)
  | _ => exact absurd rfl he

end ThreadEventQueue

/-- Wherever the calls of a run stop and whatever the queue thread does then, no withdrawn
event is executed and no destroyed one is used, if and only if no call withdraws an event
that the thread has taken and not executed yet. -/
theorem withdrawn_not_executed_iff {α : Type*} [DecidableEq α] {overflow : UInt32 → UInt32 → Bool}
    {stamps : α → UInt32} {evs : List (ThreadQueueEvent α)} {s : ThreadEventQueue α}
    (h : (threadEventQueue overflow stamps).Run evs s) :
    (∀ pre more t, pre <+: evs → more.all (·.isThread) = true →
        (threadEventQueue overflow stamps).Run (pre ++ more) t → t.Clean) ↔
      ∀ t e, (threadEventQueue overflow stamps).Takes evs t e → t.withdrawsTaken e = false := by
  refine h.safe_iff_takes (·.isThread) (fun t => ∃ m, t.Sound m) ThreadEventQueue.Clean _
    ⟨_, ThreadEventQueue.sound_init stamps⟩ ?_ ?_ ?_ ?_
  · rintro t ⟨m, hm⟩
    exact hm.clean
  · intro t e he
    cases e <;> first | rfl | cases he
  · intro t e t' ht he hs
    exact ThreadEventQueue.sound_step ht he hs
  · intro t e t' _ he hs
    obtain ⟨u, hu, hlate⟩ := ThreadEventQueue.late_of_withdrawsTaken he hs
    exact ⟨_, u, rfl, hu, hlate⟩

def withdrawingRun : List (ThreadQueueEvent ℕ) :=
  [.create 1, .create 2, .create 3, .lockCore, .post 1, .postTimed 2 0 10, .post 3,
    .unlockCore, .turn 0, .execute, .cancel 3, .destroy 3, .postTimed 2 0 50, .executed, .turn 20,
    .turn 60, .lockCore, .unlockCore, .execute, .destroy 2, .executed]

theorem withdrawn_not_executed_by_callbacks :
    ((threadEventQueue (fun _ _ => false) fun _ => 0).exec withdrawingRun).isSome = true ∧
      ∀ pre more t, pre <+: withdrawingRun → more.all (·.isThread) = true →
        (threadEventQueue (fun _ _ => false) fun _ => 0).Run (pre ++ more) t → t.Clean := by
  have hr : (threadEventQueue (fun _ _ => false) fun _ => 0).Run withdrawingRun _ :=
    Machine.run_of_exec rfl
  refine ⟨by decide +kernel, (withdrawn_not_executed_iff hr).mpr fun t e ht => ?_⟩
  exact Machine.takes_eq_false_of_allTaken (by decide +kernel) ht

/-- The thread has taken an event when another thread, which holds `coreMutex`, cancels it.
The callback is invoked all the same; had the event been destroyed, its memory would be
used. -/
theorem cancelled_event_executed :
    (∃ s, (threadEventQueue (fun _ _ => false) fun _ => 0).Run
        [.create 1, .post 1, .lockCore, .turn 0, .cancel 1, .unlockCore, .execute] s ∧
      s.invokedLate = true) ∧
    ∃ s, (threadEventQueue (fun _ _ => false) fun _ => 0).Run
        [.create 1, .post 1, .lockCore, .turn 0, .destroy 1, .unlockCore, .execute] s ∧
      s.badAccess = true :=
  ⟨⟨_, Machine.run_of_exec (M := threadEventQueue (fun _ _ => false) (fun _ : ℕ => 0)) rfl, rfl⟩,
    _, Machine.run_of_exec (M := threadEventQueue (fun _ _ => false) (fun _ : ℕ => 0)) rfl, rfl⟩

end NabtoDevice
