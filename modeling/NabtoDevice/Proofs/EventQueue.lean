import NabtoDevice.Proofs.Timestamp
import NabtoDevice.Sanity.EventQueue

/-! The event queue keeps the agenda of its users. The invariant `Kept` relates the lists
to the agenda; that the timed list stays sorted needs a window on the clock for the state
after the step, in which the sign does not turn: there the comparison of stamps is an order. -/

namespace NabtoDevice

/-- In a window in which the sign does not turn stamps compare as their places in it. -/
theorem compiledLessOrEqual_iff {overflow : UInt32 → UInt32 → Bool} {t1 t2 base : UInt32}
    (h1 : Stamp.offset base t1 < 2 ^ 31) (h2 : Stamp.offset base t2 < 2 ^ 31)
    (hsign : ¬ SignTurns t1 t2) :
    compiledLessOrEqual overflow t1 t2 = true ↔ Stamp.offset base t1 ≤ Stamp.offset base t2 := by
  rw [compiledLessOrEqual, ((comparable_iff (near_of_offset h1 h2)).mpr hsign).lessOrEqual,
    Option.getD_some, decide_eq_true_iff, Stamp.diff_nonpos_iff h1 h2]

namespace NmEventQueue

variable {α : Type*} {overflow : UInt32 → UInt32 → Bool} {queue : NmEventQueue α} {a b : α}

/-- Within such a window insertion keeps the list sorted. -/
theorem sorted_orderedInsert (base : UInt32) {events : List α}
    (hsorted : events.Pairwise (queue.lessOrEqual overflow))
    (hwindow : ∀ b ∈ a :: events, Stamp.offset base (queue.expireTimestamp b) < 2 ^ 31)
    (hsign : ∀ b ∈ a :: events, ∀ c ∈ a :: events, ¬ SignTurns (queue.expireTimestamp b)
      (queue.expireTimestamp c)) :
    (events.orderedInsert (queue.lessOrEqual overflow) a).Pairwise
      (queue.lessOrEqual overflow) := by
  -- both sides are about the offsets, which are numbers
  let position (b : α) : ℕ := Stamp.offset base (queue.expireTimestamp b)
  have hle {b c : α} (hb : b ∈ a :: events) (hc : c ∈ a :: events) :
      queue.lessOrEqual overflow b c ↔ position b ≤ position c :=
    compiledLessOrEqual_iff (hwindow b hb) (hwindow c hc) (hsign b hb c hc)
  have hmap : (events.orderedInsert (queue.lessOrEqual overflow) a).map position =
      (events.map position).orderedInsert (· ≤ ·) (position a) :=
    List.map_orderedInsert (queue.lessOrEqual overflow) (· ≤ ·) position events a
      (fun b hb => hle (List.mem_cons_of_mem a hb) List.mem_cons_self)
      (fun b hb => hle List.mem_cons_self (List.mem_cons_of_mem a hb))
  have hpositions : (events.map position).Pairwise (· ≤ ·) := by
    refine List.pairwise_map.mpr (hsorted.imp_of_mem fun hb hc hbc => ?_)
    exact (hle (List.mem_cons_of_mem a hb) (List.mem_cons_of_mem a hc)).mp hbc
  have hinserted := hpositions.orderedInsert (position a) _
  rw [← hmap] at hinserted
  refine (List.pairwise_map.mp hinserted).imp_of_mem fun hb hc hbc => ?_
  have hmem {b : α}
      (hb : b ∈ events.orderedInsert (queue.lessOrEqual overflow) a) : b ∈ a :: events := by
    simpa using hb
  exact (hle (hmem hb) (hmem hc)).mpr hbc

end NmEventQueue

namespace EventQueueRun

variable {α : Type*} {overflow : UInt32 → UInt32 → Bool}

def times (s : EventQueueRun α) : Set UInt32 :=
  {t | t = s.now ∨ ∃ event, s.agenda.pending event = some (.time t)}

/-- The time and the stamps waited for lie in less than half a turn of the clock from `base` on. -/
def InWindow (s : EventQueueRun α) (base : UInt32) : Prop :=
  ∀ t ∈ s.times, Stamp.offset base t < 2 ^ 31

def Steady (s : EventQueueRun α) : Prop := ∀ t1 ∈ s.times, ∀ t2 ∈ s.times, ¬ SignTurns t1 t2

def turns (delivered : List (α × Option Appointment)) : List ℕ :=
  delivered.filterMap fun d => d.2.bind Appointment.number?

structure OnTime (overflow : UInt32 → UInt32 → Bool) (s : EventQueueRun α) : Prop where
  nodup : (s.queue.events ++ s.queue.timedEvents).Nodup
  /-- No event is taken that waits for nothing. -/
  current : ∀ d ∈ s.delivered, d.2 ≠ none
  fifo : (turns s.delivered).Pairwise (· < ·)
  next : ∀ event, s.queue.takeEvent.map Prod.fst = some event ↔ s.agenda.IsNext event
  sorted : ∀ base, s.InWindow base → s.queue.timedEvents.Pairwise fun a b =>
    Stamp.offset base (s.queue.expireTimestamp a) ≤ Stamp.offset base (s.queue.expireTimestamp b)
  due : ∀ base, s.InWindow base → ((s.queue.takeTimedEvent overflow s.now).isSome = true ↔
    ∃ event stamp, s.agenda.pending event = some (.time stamp) ∧
      Stamp.offset base stamp ≤ Stamp.offset base s.now)
  earliest : ∀ base, s.InWindow base → ∀ event queue,
    s.queue.takeTimedEvent overflow s.now = some (event, queue) →
      ∃ stamp, s.agenda.pending event = some (.time stamp) ∧
        Stamp.offset base stamp ≤ Stamp.offset base s.now ∧
        ∀ other later, s.agenda.pending other = some (.time later) →
          Stamp.offset base stamp ≤ Stamp.offset base later

structure Kept (overflow : UInt32 → UInt32 → Bool) (s : EventQueueRun α) : Prop where
  held : s.queue.Holds s.agenda
  stamps : ∀ event stamp, s.agenda.pending event = some (.time stamp) →
    s.queue.expireTimestamp event = stamp
  sorted : s.queue.timedEvents.Pairwise (s.queue.lessOrEqual overflow)
  current : ∀ d ∈ s.delivered, d.2 ≠ none
  fifo : (turns s.delivered).Pairwise (· < ·)
  past : ∀ n ∈ turns s.delivered, n < s.agenda.issued ∧
    ∀ event k, s.agenda.pending event = some (.turn k) → n < k

variable {s : EventQueueRun α} {base : UInt32} {event : α}

/-- The stamp of an event in the timed list is the one that is waited for. -/
theorem Kept.pending_of_timed (h : s.Kept overflow) (hmem : event ∈ s.queue.timedEvents) :
    s.agenda.pending event = some (.time (s.queue.expireTimestamp event)) := by
  obtain ⟨stamp, hstamp⟩ := (h.held.mem_times event).mp hmem
  rw [h.stamps event stamp hstamp]
  exact hstamp

theorem Kept.mem_times (h : s.Kept overflow) (hmem : event ∈ s.queue.timedEvents) :
    s.queue.expireTimestamp event ∈ s.times := Or.inr ⟨event, h.pending_of_timed hmem⟩

theorem Kept.sorted_offset (h : s.Kept overflow) (hw : s.InWindow base) (hsteady : s.Steady) :
    s.queue.timedEvents.Pairwise fun a b =>
      Stamp.offset base (s.queue.expireTimestamp a) ≤
        Stamp.offset base (s.queue.expireTimestamp b) := by
  refine h.sorted.imp_of_mem fun ha hb hab => ?_
  have ha' := h.mem_times ha
  have hb' := h.mem_times hb
  exact (compiledLessOrEqual_iff (hw _ ha') (hw _ hb') (hsteady _ ha' _ hb')).mp hab

/-- The event at the front of the timed list expires first. -/
theorem Kept.front_le (h : s.Kept overflow) (hw : s.InWindow base) (hsteady : s.Steady) {front : α}
    (hfront : s.queue.timedEvents.head? = some front) {stamp : UInt32}
    (hevent : s.agenda.pending event = some (.time stamp)) :
    Stamp.offset base (s.queue.expireTimestamp front) ≤ Stamp.offset base stamp := by
  obtain ⟨rest, htimed⟩ := List.head?_eq_some_iff.mp hfront
  have hmem := (h.held.mem_times event).mpr ⟨stamp, hevent⟩
  have hsorted := h.sorted_offset hw hsteady
  rw [htimed] at hmem hsorted
  rw [← h.stamps event stamp hevent]
  rcases List.mem_cons.mp hmem with rfl | hmem
  · exact le_rfl
  · exact (List.pairwise_cons.mp hsorted).1 event hmem

theorem Kept.due_iff (h : s.Kept overflow) (hw : s.InWindow base) (hsteady : s.Steady)
    (hmem : event ∈ s.queue.timedEvents) :
    compiledLessOrEqual overflow (s.queue.expireTimestamp event) s.now = true ↔
      Stamp.offset base (s.queue.expireTimestamp event) ≤ Stamp.offset base s.now := by
  have hstamp := h.mem_times hmem
  have hnow : s.now ∈ s.times := Or.inl rfl
  exact compiledLessOrEqual_iff (hw _ hstamp) (hw _ hnow) (hsteady _ hstamp _ hnow)

theorem Kept.onTime (h : s.Kept overflow) (hsteady : s.Steady) : s.OnTime overflow where
  nodup := h.held.nodup
  current := h.current
  fifo := h.fifo
  next event := by
    rw [NmEventQueue.takeEvent_map]
    exact Agenda.HeldBy.isNext_iff h.held
  sorted base hw := h.sorted_offset hw hsteady
  due base hw := by
    rw [NmEventQueue.takeTimedEvent_isSome_iff]
    constructor
    · rintro ⟨front, hfront, hdue⟩
      have hmem := List.mem_of_mem_head? hfront
      exact ⟨front, _, h.pending_of_timed hmem, (h.due_iff hw hsteady hmem).mp hdue⟩
    · rintro ⟨event, stamp, hevent, hdue⟩
      have hmem := (h.held.mem_times event).mpr ⟨stamp, hevent⟩
      obtain ⟨front, hfront⟩ : ∃ front, s.queue.timedEvents.head? = some front := by
        cases htimed : s.queue.timedEvents with
        | nil => simp [htimed] at hmem
        | cons front rest => exact ⟨front, rfl⟩
      refine ⟨front, hfront, (h.due_iff hw hsteady (List.mem_of_mem_head? hfront)).mpr ?_⟩
      exact (h.front_le hw hsteady hfront hevent).trans hdue
  earliest base hw event queue htake := by
    obtain ⟨htimed, -, hdue⟩ := NmEventQueue.takeTimedEvent_eq_some htake
    have hmem : event ∈ s.queue.timedEvents := by simp [htimed]
    refine ⟨_, h.pending_of_timed hmem, (h.due_iff hw hsteady hmem).mp hdue,
      fun other later hother => ?_⟩
    exact h.front_le hw hsteady (by simp [htimed]) hother

/-- An agenda with fewer turns pending and more given keeps the turns taken in the past. -/
theorem Kept.past_of (h : s.Kept overflow) {agenda : Agenda α}
    (hissued : s.agenda.issued ≤ agenda.issued)
    (hturn : ∀ event k, agenda.pending event = some (.turn k) →
      s.agenda.pending event = some (.turn k) ∨ k = s.agenda.issued) :
    ∀ n ∈ turns s.delivered, n < agenda.issued ∧
      ∀ event k, agenda.pending event = some (.turn k) → n < k := by
  intro n hn
  obtain ⟨hlt, hpast⟩ := h.past n hn
  refine ⟨hlt.trans_le hissued, fun event k hk => ?_⟩
  rcases hturn event k hk with hk | rfl
  · exact hpast event k hk
  · exact hlt

variable [DecidableEq α]

theorem kept_post (h : s.Kept overflow) (event : α) :
    Kept overflow { s with queue := s.queue.appendEvent event, agenda := s.agenda.post event } where
  held := h.held.appendEvent event
  stamps a stamp ha := by
    rw [NmEventQueue.appendEvent_expireTimestamp]
    exact h.stamps a stamp (Agenda.time_of_post ha)
  sorted := by
    unfold NmEventQueue.appendEvent
    split_ifs
    · exact h.sorted
    · exact h.sorted
  current := h.current
  fifo := h.fifo
  past := h.past_of Agenda.issued_le_post fun _ _ ha => Agenda.turn_of_post ha

theorem kept_erase (h : s.Kept overflow) (event : α) :
    Kept overflow { s with queue := s.queue.eraseNode event, agenda := s.agenda.drop event } where
  held := h.held.eraseNode event
  stamps a stamp ha := h.stamps a stamp (Agenda.pending_of_drop ha).2
  sorted := h.sorted.sublist List.erase_sublist
  current := h.current
  fifo := h.fifo
  past := h.past_of le_rfl fun _ _ ha => Or.inl (Agenda.pending_of_drop ha).2

theorem kept_postTimed (h : s.Kept overflow) (event : α) (timestamp : UInt32)
    (hw : (s.step overflow (.postTimed event timestamp)).InWindow base)
    (hsteady : (s.step overflow (.postTimed event timestamp)).Steady) :
    (s.step overflow (.postTimed event timestamp)).Kept overflow := by
  have hheld : (s.queue.postTimedEvent overflow event timestamp).Holds
      (s.agenda.postTimed event timestamp) :=
    h.held.postTimedEvent event timestamp
  obtain ⟨queue, hqueue, heq⟩ := s.queue.postTimedEvent_eq overflow event timestamp
  have hself : queue.expireTimestamp event = timestamp := by simp [hqueue]
  have hother {a : α} (hne : a ≠ event) : queue.expireTimestamp a = s.queue.expireTimestamp a := by
    rw [hqueue]
    exact Function.update_of_ne hne ..
  have hstamps (a : α) (stamp : UInt32)
      (ha : (s.agenda.postTimed event timestamp).pending a = some (.time stamp)) :
      queue.expireTimestamp a = stamp := by
    rcases Agenda.time_of_postTimed ha with ⟨rfl, rfl⟩ | ⟨hne, ha⟩
    · exact hself
    · exact (hother hne).trans (h.stamps a stamp ha)
  -- the stamps of the events that stay have not changed
  have hsorted : queue.timedEvents.Pairwise (queue.lessOrEqual overflow) := by
    have htimed : queue.timedEvents = s.queue.timedEvents.erase event := by rw [hqueue]; rfl
    have hnodup := (List.nodup_append.mp h.held.nodup).2.1
    rw [htimed]
    refine (h.sorted.sublist List.erase_sublist).imp_of_mem fun {a b} ha hb hab => ?_
    unfold NmEventQueue.lessOrEqual at hab ⊢
    rwa [hother (hnodup.mem_erase_iff.mp ha).1, hother (hnodup.mem_erase_iff.mp hb).1]
  rw [step, heq] at hw hsteady ⊢
  rw [heq] at hheld
  have htimes (a : α) (ha : a ∈ event :: queue.timedEvents) : queue.expireTimestamp a = s.now ∨
      ∃ other, (s.agenda.postTimed event timestamp).pending other =
        some (.time (queue.expireTimestamp a)) := by
    obtain ⟨stamp, hstamp⟩ := (hheld.mem_times a).mp (by simpa using ha)
    exact Or.inr ⟨a, hstamps a stamp hstamp ▸ hstamp⟩
  refine ⟨hheld, hstamps, ?_, h.current, h.fifo,
    h.past_of le_rfl fun _ _ ha => Or.inl (Agenda.turn_of_postTimed ha)⟩
  exact NmEventQueue.sorted_orderedInsert base hsorted (fun a ha => hw _ (htimes a ha))
    fun a ha b hb => hsteady _ (htimes a ha) _ (htimes b hb)

omit [DecidableEq α] in
theorem turns_concat (delivered : List (α × Option Appointment)) (event : α)
    (appointment : Appointment) :
    turns (delivered ++ [(event, some appointment)]) = turns delivered ++
      appointment.number?.toList := by
  rw [turns, List.filterMap_append]
  cases hnumber : appointment.number? <;> simp [turns, hnumber]

/-- What is taken waits for something, and if for its turn, then for the next one. -/
theorem kept_deliver (h : s.Kept overflow) {appointment : Appointment}
    (hpending : s.agenda.pending event = some appointment)
    (hnext : ∀ n, appointment = .turn n → s.agenda.IsNext event) :
    (s.deliver (some (event, s.queue.eraseNode event))).Kept overflow := by
  have herased := kept_erase h event
  unfold deliver
  dsimp only
  rw [hpending]
  refine ⟨herased.held, herased.stamps, herased.sorted, ?_, ?_, ?_⟩
  · intro d hd
    rcases List.mem_append.mp hd with hd | hd
    · exact h.current d hd
    · rw [List.mem_singleton.mp hd]
      exact Option.some_ne_none _
  · rw [turns_concat]
    cases appointment with
    | time stamp => simpa [Appointment.number?] using h.fifo
    | turn n =>
      refine List.pairwise_append.mpr ⟨h.fifo, List.pairwise_singleton _ _, fun k hk j hj => ?_⟩
      rw [List.mem_singleton.mp hj]
      exact (h.past k hk).2 event n hpending
  · rw [turns_concat]
    intro n hn
    rcases List.mem_append.mp hn with hn | hn
    · exact herased.past n hn
    · cases appointment with
      | time stamp => cases hn
      | turn k =>
        obtain rfl := List.mem_singleton.mp hn
        refine ⟨h.held.issued event n hpending, fun other k hother => ?_⟩
        obtain ⟨hne, hother⟩ := Agenda.pending_of_drop hother
        obtain ⟨m, hm, hleast⟩ := hnext n rfl
        obtain rfl : n = m := by simpa [hpending] using hm
        exact hleast other k hne hother

theorem kept_take (h : s.Kept overflow) : (s.step overflow .take).Kept overflow := by
  unfold step
  cases htake : s.queue.takeEvent with
  | none => exact h
  | some taken =>
    obtain ⟨event, queue⟩ := taken
    obtain ⟨hnext, rfl⟩ := h.held.takeEvent htake
    obtain ⟨n, hn, -⟩ := id hnext
    exact kept_deliver h hn fun _ _ => hnext

theorem kept_takeTimed (h : s.Kept overflow) : (s.step overflow .takeTimed).Kept overflow := by
  unfold step
  cases htake : s.queue.takeTimedEvent overflow s.now with
  | none => exact h
  | some taken =>
    obtain ⟨event, queue⟩ := taken
    obtain ⟨hmem, rfl⟩ := h.held.takeTimedEvent htake
    exact kept_deliver h (h.pending_of_timed hmem) fun n hn => by cases hn

theorem kept_step (h : s.Kept overflow) {e : EventQueueCall α}
    (hw : (s.step overflow e).InWindow base)
    (hsteady : (s.step overflow e).Steady) : (s.step overflow e).Kept overflow := by
  cases e with
  | post event => exact kept_post h event
  | postMaybeDouble event => exact kept_post h event
  | postTimed event timestamp => exact kept_postTimed h event timestamp hw hsteady
  | cancel event =>
    rw [step, NmEventQueue.cancelEvent_eq]
    exact kept_erase h event
  | take => exact kept_take h
  | takeTimed => exact kept_takeTimed h
  | clock now => exact ⟨h.held, h.stamps, h.sorted, h.current, h.fifo, h.past⟩

end EventQueueRun

/-- In every run of the event queue in which the time and the stamps waited for always lie
in one window and the sign turns between no two of them, the queue serves its users on time,
whatever the compiled program makes of an overflow. -/
theorem eventQueue_onTime {α : Type*} [DecidableEq α] {overflow : UInt32 → UInt32 → Bool}
    {stamps : α → UInt32} {start : UInt32} {evs : List (EventQueueCall α)}
    (hwindow : ∀ t, (eventQueue overflow stamps start).Visits evs t → ∃ base, t.InWindow base)
    (hsteady : ∀ t, (eventQueue overflow stamps start).Visits evs t → t.Steady) :
    ∀ t, (eventQueue overflow stamps start).Visits evs t → t.OnTime overflow := by
  intro t ht
  have hinit : (eventQueue overflow stamps start).init.Kept overflow :=
    ⟨Agenda.heldBy_empty, (fun _ _ hp => by cases hp), List.Pairwise.nil, (fun _ hd => by cases hd),
      List.Pairwise.nil, (fun _ hn => by cases hn)⟩
  have hkept : t.Kept overflow := by
    refine ht.invariant_of_takes (EventQueueRun.Kept overflow)
      (fun u e => (∃ base, (u.step overflow e).InWindow base) ∧ (u.step overflow e).Steady) hinit ?_
      fun u e hu => ?_
    · rintro u e u' hkept ⟨⟨base, hw⟩, hsign⟩ hs
      cases hs
      exact EventQueueRun.kept_step hkept hw hsign
    · have hvisits : (eventQueue overflow stamps start).Visits evs (u.step overflow e) :=
        hu.visits_step rfl
      exact ⟨hwindow _ hvisits, hsteady _ hvisits⟩
  exact hkept.onTime (hsteady t ht)

def EventQueueCall.stamp? {α : Type*} : EventQueueCall α → Option UInt32
  | .postTimed _ timestamp => some timestamp
  | .clock now => some now
  | _ => none

section Calls

variable {α : Type*} [DecidableEq α] {overflow : UInt32 → UInt32 → Bool} {p : UInt32 → Bool}

theorem EventQueueRun.times_step {s : EventQueueRun α} (h : ∀ t ∈ s.times, p t = true)
    {e : EventQueueCall α}
    (he : e.stamp?.all p = true) : ∀ t ∈ (s.step overflow e).times, p t = true := by
  have hold {agenda : Agenda α} (hagenda : ∀ a stamp, agenda.pending a = some (.time stamp) →
      s.agenda.pending a = some (.time stamp)) {t : UInt32}
      (ht : t = s.now ∨ ∃ a, agenda.pending a = some (.time t)) : p t = true := by
    refine h t (ht.imp_right ?_)
    rintro ⟨a, ha⟩
    exact ⟨a, hagenda a t ha⟩
  have hdrop (event a : α) (stamp : UInt32)
      (ha : (s.agenda.drop event).pending a = some (.time stamp)) :
      s.agenda.pending a = some (.time stamp) := (Agenda.pending_of_drop ha).2
  have hdeliver (taken : Option (α × NmEventQueue α)) :
      ∀ t ∈ (s.deliver taken).times, p t = true := by
    cases taken with
    | none => exact h
    | some taken => exact fun t ht => hold (hdrop taken.1) ht
  cases e with
  | post event | postMaybeDouble event =>
    exact fun t ht => hold (fun a stamp ha => Agenda.time_of_post ha) ht
  | postTimed event timestamp =>
    rintro t (ht | ⟨a, ha⟩)
    · exact h t (Or.inl ht)
    · rcases Agenda.time_of_postTimed ha with ⟨-, rfl⟩ | ⟨-, ha⟩
      · simpa [EventQueueCall.stamp?] using he
      · exact h t (Or.inr ⟨a, ha⟩)
  | cancel event => exact fun t ht => hold (hdrop event) ht
  | take | takeTimed => exact hdeliver _
  | clock now =>
    rintro t (rfl | ht)
    · simpa [EventQueueCall.stamp?, step] using he
    · exact h t (Or.inr ht)

/-- The times of a run are those that it starts with or that its calls bring. -/
theorem times_of_calls {stamps : α → UInt32} {start : UInt32} {evs : List (EventQueueCall α)}
    (hstart : p start = true) (hevs : evs.all (·.stamp?.all p) = true) {s : EventQueueRun α}
    (hs : (eventQueue overflow stamps start).Visits evs s) : ∀ t ∈ s.times, p t = true := by
  refine hs.invariant_of_takes (fun s => ∀ t ∈ s.times, p t = true)
    (fun _ e => e.stamp?.all p = true) ?_ ?_ ?_
  · rintro t (rfl | ⟨event, hp⟩)
    · exact hstart
    · cases hp
  · intro s e s' h he hstep
    exact Option.some.inj hstep ▸ EventQueueRun.times_step h he
  · rintro s e ⟨pre, hpre, -⟩
    exact List.all_eq_true.mp hevs e (hpre.subset (by simp))

end Calls

/-- Ten milliseconds before the clock wraps, an event is timed after the wrap and another
one before it; the first is moved, and two are posted of which one is cancelled. -/
def wrappingCalls : List (EventQueueCall ℕ) :=
  [.postTimed 1 5, .postTimed 2 (2 ^ 32 - 3), .postTimed 3 20, .postTimed 1 30, .post 4,
    .post 5, .post 2, .cancel 4, .take, .take, .clock (2 ^ 32 - 2), .takeTimed, .takeTimed,
    .clock 25, .takeTimed, .takeTimed]

theorem eventQueue_onTime_across_wrap :
    ((eventQueue (fun _ _ => false) (fun _ => 0) (2 ^ 32 - 10)).exec wrappingCalls).map
      (·.delivered) =
        some [(5, some (.turn 1)), (2, some (.time (2 ^ 32 - 3))), (3, some (.time 20))] ∧
      ∀ t, (eventQueue (fun _ _ => false) (fun _ => 0) (2 ^ 32 - 10)).Visits wrappingCalls t →
        t.OnTime fun _ _ => false := by
  have hnear (s : EventQueueRun ℕ)
      (hs : (eventQueue (fun _ _ => false) (fun _ => 0) (2 ^ 32 - 10)).Visits wrappingCalls s)
      (t : UInt32) (ht : t ∈ s.times) : Stamp.offset (2 ^ 32 - 10) t < 100 :=
    of_decide_eq_true (times_of_calls (p := fun t => Stamp.offset (2 ^ 32 - 10) t < 100)
      (by decide) (by decide) hs t ht)
  refine ⟨by decide +kernel,
    eventQueue_onTime (fun s hs => ⟨2 ^ 32 - 10, fun t ht => ?_⟩) fun s hs t1 h1 t2 h2 => ?_⟩
  · have := hnear s hs t ht
    omega
  · -- the sign turns half a turn of the clock later
    have hlt1 := hnear s hs t1 h1
    have hlt2 := hnear s hs t2 h2
    have hbase : (2 ^ 32 - 10 : UInt32).toNat = 2 ^ 32 - 10 := by decide
    rw [Stamp.offset, UInt32.toNat_sub, hbase] at hlt1 hlt2
    have := t1.toNat_lt
    have := t2.toNat_lt
    rintro (⟨hlow, hhigh, hdiff⟩ | ⟨hlow, hhigh, hdiff⟩) <;>
      rw [Stamp.diff_eq, UInt32.toNat_sub] at hdiff <;> split_ifs at hdiff <;> omega

/-- What an optimising compiler makes of the comparison: that of the numbers. -/
def numbersInOrder (t1 t2 : UInt32) : Bool := toInt32 t1 ≤ toInt32 t2

/-- Two events are timed, one before the sign turns and one after it. -/
def turningCalls : List (EventQueueCall ℕ) :=
  [.postTimed 1 0x7FFFFFFE, .postTimed 2 0x80000005, .takeTimed]

/-- Ten milliseconds before the sign turns the event after the turn is put first and is taken at
once. -/
theorem eventQueue_early_at_turn :
    (∀ t, (eventQueue numbersInOrder (fun _ => 0) 0x7FFFFFF6).Visits turningCalls t →
      t.InWindow 0x7FFFFFF6) ∧
    ((eventQueue numbersInOrder (fun _ => 0) 0x7FFFFFF6).exec turningCalls).map
      (fun s => (s.now, s.delivered)) = some (0x7FFFFFF6, [(2, some (.time 0x80000005))]) ∧
    ∃ t, (eventQueue numbersInOrder (fun _ => 0) 0x7FFFFFF6).Visits turningCalls t ∧
      ¬ t.OnTime numbersInOrder := by
  have hwindow (s : EventQueueRun ℕ)
      (hs : (eventQueue numbersInOrder (fun _ => 0) 0x7FFFFFF6).Visits turningCalls s) :
      s.InWindow 0x7FFFFFF6 := by
    intro t ht
    have hp := times_of_calls (p := fun t => Stamp.offset 0x7FFFFFF6 t < 2 ^ 31) (by decide)
      (by decide) hs t ht
    exact of_decide_eq_true hp
  have hposted : (eventQueue numbersInOrder (fun _ : ℕ => 0) 0x7FFFFFF6).Run
      [.postTimed 1 0x7FFFFFFE, .postTimed 2 0x80000005] _ := Machine.run_of_exec rfl
  have hvisits := hposted.visits.snoc .takeTimed
  refine ⟨hwindow, by decide +kernel, _, hvisits, fun h => ?_⟩
  have hsorted := h.sorted _ (hwindow _ hvisits)
  have horder :=
    (List.pairwise_cons.mp (show List.Pairwise _ [2, 1] from hsorted)).1 1 List.mem_cons_self
  exact absurd horder (by decide)

end NabtoDevice
