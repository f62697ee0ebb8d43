import NabtoDevice.Spec.EventQueue

/-! What the operations of the event queue do to its lists and to the agenda that these
hold. -/

namespace NabtoDevice

namespace NmEventQueue

variable {α : Type*} {overflow : UInt32 → UInt32 → Bool} {queue : NmEventQueue α} {a b : α}

theorem takeEvent_map (queue : NmEventQueue α) :
    queue.takeEvent.map Prod.fst = queue.events.head? := by
  unfold takeEvent
  cases queue.events <;> rfl

theorem takeEvent_eq_some {events : NmEventQueue α} (h : queue.takeEvent = some (a, events)) :
    queue.events = a :: events.events ∧ events = { queue with events := events.events } := by
  unfold takeEvent at h
  cases hevents : queue.events with
  | nil => simp [hevents] at h
  | cons first rest =>
    simp only [hevents, Option.some.injEq, Prod.mk.injEq] at h
    obtain ⟨rfl, rfl⟩ := h
    exact ⟨rfl, rfl⟩

theorem takeTimedEvent_eq_some {now : UInt32} {taken : NmEventQueue α}
    (h : queue.takeTimedEvent overflow now = some (a, taken)) :
    queue.timedEvents = a :: taken.timedEvents ∧
      taken = { queue with timedEvents := taken.timedEvents } ∧
      compiledLessOrEqual overflow (queue.expireTimestamp a) now = true := by
  unfold takeTimedEvent at h
  cases htimed : queue.timedEvents with
  | nil => simp [htimed] at h
  | cons first rest =>
    simp only [htimed] at h
    obtain ⟨hdue, heq⟩ := Option.ite_none_right_eq_some.mp h
    simp only [Option.some.injEq, Prod.mk.injEq] at heq
    obtain ⟨rfl, rfl⟩ := heq
    exact ⟨rfl, rfl, hdue⟩

theorem takeTimedEvent_isSome_iff {now : UInt32} :
    (queue.takeTimedEvent overflow now).isSome = true ↔
      ∃ event, queue.timedEvents.head? = some event ∧
        compiledLessOrEqual overflow (queue.expireTimestamp event) now = true := by
  unfold takeTimedEvent
  cases queue.timedEvents with
  | nil => simp
  | cons first rest =>
    by_cases hdue : compiledLessOrEqual overflow (queue.expireTimestamp first) now = true <;>
      simp [hdue]

variable [DecidableEq α]

theorem eraseNode_of_not_mem (h : queue.nodeInList a = false) : queue.eraseNode a = queue := by
  simp only [nodeInList, Bool.or_eq_false_iff, decide_eq_false_iff_not] at h
  simp [eraseNode, List.erase_of_not_mem h.1, List.erase_of_not_mem h.2]

theorem cancelEvent_eq (queue : NmEventQueue α) (a : α) :
    queue.cancelEvent a = queue.eraseNode a := by
  unfold cancelEvent
  cases hmem : queue.nodeInList a with
  | true => simp
  | false => simp [eraseNode_of_not_mem hmem]

/-- The event is taken out of the lists, gets its stamp and is put in its place. -/
theorem postTimedEvent_eq (overflow : UInt32 → UInt32 → Bool) (queue : NmEventQueue α) (a : α)
    (timestamp : UInt32) :
    ∃ stamped : NmEventQueue α,
      stamped = { queue.eraseNode a with
        expireTimestamp := Function.update queue.expireTimestamp a timestamp } ∧
      queue.postTimedEvent overflow a timestamp =
        { stamped with
          timedEvents := stamped.timedEvents.orderedInsert (stamped.lessOrEqual overflow) a } := by
  refine ⟨_, rfl, ?_⟩
  unfold postTimedEvent
  dsimp only
  have hcancel := cancelEvent_eq
    { queue with expireTimestamp := Function.update queue.expireTimestamp a timestamp } a
  unfold cancelEvent at hcancel
  rw [hcancel]
  rfl

@[simp] theorem appendEvent_expireTimestamp (queue : NmEventQueue α) (a : α) :
    (queue.appendEvent a).expireTimestamp = queue.expireTimestamp := by
  unfold appendEvent
  split_ifs <;> rfl

/-! ### The agenda -/

omit [DecidableEq α] in
def Holds (queue : NmEventQueue α) (m : Agenda α) : Prop := m.HeldBy queue.events queue.timedEvents

omit [DecidableEq α] in
theorem Holds.mem_iff {m : Agenda α} (h : queue.Holds m) :
    a ∈ queue.events ++ queue.timedEvents ↔ m.pending a ≠ none := by
  rw [Ne, h.pending_eq_none_iff, List.mem_append]
  tauto

theorem Holds.nodeInList_iff {m : Agenda α} (h : queue.Holds m) :
    queue.nodeInList a = true ↔ m.pending a ≠ none := by
  rw [← h.mem_iff]
  simp [nodeInList]

/-- Both ways to post. -/
theorem Holds.appendEvent {m : Agenda α} (h : queue.Holds m) (a : α) :
    (queue.appendEvent a).Holds (m.post a) := by
  unfold NmEventQueue.appendEvent Agenda.post
  by_cases hin : queue.nodeInList a = true
  · rw [if_pos hin, if_pos (Option.ne_none_iff_isSome.mp (h.nodeInList_iff.mp hin))]
    exact h
  · have hfree : m.pending a = none := by
      by_contra hsome
      exact hin (h.nodeInList_iff.mpr hsome)
    rw [if_neg hin, if_neg (by simp [hfree])]
    exact h.giveTurn hfree

theorem Holds.eraseNode {m : Agenda α} (h : queue.Holds m) (a : α) :
    (queue.eraseNode a).Holds (m.drop a) := Agenda.HeldBy.drop h a

theorem Holds.cancelEvent {m : Agenda α} (h : queue.Holds m) (a : α) :
    (queue.cancelEvent a).Holds (m.drop a) := by
  rw [cancelEvent_eq]
  exact h.eraseNode a

/-- The event waits for nothing when it is inserted. -/
theorem Holds.postTimedEvent {m : Agenda α} (h : queue.Holds m) (a : α) (timestamp : UInt32) :
    (queue.postTimedEvent overflow a timestamp).Holds (m.postTimed a timestamp) := by
  obtain ⟨stamped, hstamped, heq⟩ := queue.postTimedEvent_eq overflow a timestamp
  have herased : stamped.Holds (m.drop a) := by
    rw [hstamped]
    exact h.eraseNode a
  rw [heq, ← Agenda.postTimed_drop]
  exact Agenda.HeldBy.postTimed herased Agenda.drop_pending_self
    (List.perm_orderedInsert ..) timestamp

/-- An event that is taken leaves the lists as one that is cancelled does. -/
theorem Holds.takeEvent {m : Agenda α} (h : queue.Holds m) {taken : NmEventQueue α}
    (htake : queue.takeEvent = some (a, taken)) :
    m.IsNext a ∧ taken = queue.eraseNode a := by
  obtain ⟨hevents, htaken⟩ := takeEvent_eq_some htake
  refine ⟨Agenda.HeldBy.isNext_iff h |>.mp (by simp [hevents]), ?_⟩
  have hnodup := h.nodup
  rw [hevents] at hnodup
  simp only [List.cons_append, List.nodup_cons, List.mem_append, not_or] at hnodup
  rw [htaken, NmEventQueue.eraseNode, hevents, List.erase_cons_head,
    List.erase_of_not_mem hnodup.1.2]

theorem Holds.takeTimedEvent {m : Agenda α} (h : queue.Holds m) {now : UInt32}
    {taken : NmEventQueue α} (htake : queue.takeTimedEvent overflow now = some (a, taken)) :
    a ∈ queue.timedEvents ∧ taken = queue.eraseNode a := by
  obtain ⟨htimed, htaken, -⟩ := takeTimedEvent_eq_some htake
  have hmem : a ∈ queue.timedEvents := by simp [htimed]
  refine ⟨hmem, ?_⟩
  have hevents : a ∉ queue.events := fun hevent =>
    (List.nodup_append.mp h.nodup).2.2 a hevent a hmem rfl
  rw [htaken, NmEventQueue.eraseNode, htimed, List.erase_cons_head, List.erase_of_not_mem hevents]

end NmEventQueue

end NabtoDevice
