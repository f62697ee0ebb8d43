import NabtoDevice.Spec.CoapTimer

/-! When the timer of a CoAP module is armed in time. `currentExpiry` is `2 ^ 29` ahead of
the last time the timer fired. After a longer idle time it is in the past, and the timeout
of a wait that comes then is not before it, so that no timer is armed. -/

namespace NabtoDevice

theorem infinite_toNat : ((1 : UInt32) <<< 29).toNat = 2 ^ 29 := by decide

/-- What the expiry stands for, at the time `now`: the infinite stamp of the time `stamped`, or
the timer that is posted. A timer that is due already may have been posted for an earlier
stamp. -/
def ExpiryMatches (ctx : CoapTimer) (now stamped : ℕ) : Prop :=
  match ctx.timer with
  | none => ctx.currentExpiry = Stamp.ofTime stamped + (1 : UInt32) <<< 29
  | some due => due ≤ now ∨ ctx.currentExpiry = Stamp.ofTime due ∧ due < now + 2 ^ 31

variable {ctx : CoapTimer} {now stamped : ℕ}

theorem ExpiryMatches.pass (h : ExpiryMatches ctx now stamped) (milliseconds : ℕ) :
    ExpiryMatches ctx (now + milliseconds) stamped := by
  unfold ExpiryMatches at *
  cases htimer : ctx.timer with
  | none =>
    rw [htimer] at h
    exact h
  | some due =>
    rw [htimer] at h
    rcases h with hdue | ⟨hexpiry, hahead⟩
    · exact Or.inl (by omega)
    · exact Or.inr ⟨hexpiry, by omega⟩

/-- A timer for a timeout that has passed is due at once. -/
theorem handleWait_eq (ctx : CoapTimer) (now : ℕ) (nextStamp : UInt32) :
    handleWait ctx now nextStamp =
      if Stamp.diff nextStamp ctx.currentExpiry < 0 then
        ⟨nextStamp, some (now + (Stamp.diff nextStamp (Stamp.ofTime now)).toNat)⟩
      else ctx := by
  unfold handleWait nabtoCoapIsStampLess nabtoCoapStampDiff npEventQueuePostTimedEvent
  by_cases hless : Stamp.diff nextStamp ctx.currentExpiry < 0
  · rw [if_pos (decide_eq_true hless), if_pos hless]
    by_cases hpast : Stamp.diff nextStamp (Stamp.ofTime now) < 0
    · simp [hpast, Int.toNat_of_nonpos hpast.le]
    · simp [hpast]
  · rw [if_neg (by simpa using hless), if_neg hless]

theorem ExpiryMatches.handleWait (h : ExpiryMatches ctx now stamped) (nextStamp : UInt32) :
    ExpiryMatches (handleWait ctx now nextStamp) now stamped := by
  have hlt := Stamp.diff_lt nextStamp (Stamp.ofTime now)
  rw [handleWait_eq]
  split_ifs
  · rcases lt_or_ge (Stamp.diff nextStamp (Stamp.ofTime now)) 0 with hpast | hahead
    · exact Or.inl (by omega)
    · exact Or.inr ⟨(Stamp.ofTime_add_diff hahead).symm, by omega⟩
  · exact h

/-- The timeout `nextStamp` is not before `currentExpiry`, though it is before the timer. -/
def missed (ctx : CoapTimer) (now stamped : ℕ) (nextStamp : UInt32) : Bool :=
  match ctx.timer with
  | none =>
    -- so long after the last infinite stamp that the timeout is past it
    2 ^ 29 ≤ (nextStamp - Stamp.ofTime stamped).toNat &&
      (nextStamp - Stamp.ofTime stamped).toNat < 2 ^ 29 + 2 ^ 31
  | some due =>
    -- so long ago that it looks like a time after the timer
    nabtoCoapStampDiff nextStamp (Stamp.ofTime now) + 2 ^ 31 < (due : ℤ) - now

/-- Without a timer the comparison is with the infinite stamp. -/
theorem infinite_not_less_iff (stamped : ℕ) (nextStamp : UInt32) :
    ¬ Stamp.diff nextStamp (Stamp.ofTime stamped + (1 : UInt32) <<< 29) < 0 ↔
      2 ^ 29 ≤ (nextStamp - Stamp.ofTime stamped).toNat ∧
        (nextStamp - Stamp.ofTime stamped).toNat < 2 ^ 29 + 2 ^ 31 := by
  rw [Stamp.diff_add_neg_iff _ _ _ (by decide), infinite_toNat]
  omega

/-- With a timer that is still to come the comparison is with its time. -/
theorem due_not_less_iff {due : ℕ} (nextStamp : UInt32) (hahead : now < due)
    (hnear : due < now + 2 ^ 31) :
    ¬ Stamp.diff nextStamp (Stamp.ofTime due) < 0 ↔
      (due : ℤ) - now ≤ Stamp.diff nextStamp (Stamp.ofTime now) ∨
        Stamp.diff nextStamp (Stamp.ofTime now) + 2 ^ 31 < (due : ℤ) - now := by
  have hk : (Stamp.ofTime (due - now)).toNat = due - now := by
    rw [Stamp.ofTime, UInt32.toNat_ofNat_of_lt' (by simp only [UInt32.size]; omega)]
  have hdue : Stamp.ofTime due = Stamp.ofTime now + Stamp.ofTime (due - now) := by
    rw [← Stamp.ofTime_add, Nat.add_sub_cancel' hahead.le]
  have hlt := (nextStamp - Stamp.ofTime now).toNat_lt
  rw [hdue, Stamp.diff_add_neg_iff _ _ _ (by omega), hk, Stamp.diff_eq]
  split_ifs <;> omega

def ArmedBy (ctx : CoapTimer) (timeout : ℕ) : Prop := ∃ due ∈ ctx.timer, due ≤ timeout

theorem not_armedBy_none {expiry : UInt32} {timeout : ℕ} : ¬ ArmedBy ⟨expiry, none⟩ timeout := by
  rintro ⟨due, hdue, -⟩
  simp at hdue

theorem armedBy_some {expiry : UInt32} {due timeout : ℕ} :
    ArmedBy ⟨expiry, some due⟩ timeout ↔ due ≤ timeout := by
  simp [ArmedBy]

/-- A wait leaves a timer that is due in time exactly when the timeout is not missed. -/
theorem handleWait_armed_iff (h : ExpiryMatches ctx now stamped) (nextStamp : UInt32) :
    ArmedBy (handleWait ctx now nextStamp)
        (now + (nabtoCoapStampDiff nextStamp (Stamp.ofTime now)).toNat) ↔
      missed ctx now stamped nextStamp = false := by
  obtain ⟨expiry, timer⟩ := ctx
  rw [handleWait_eq]
  unfold missed nabtoCoapStampDiff
  dsimp only
  cases timer with
  | none =>
    replace h : expiry = Stamp.ofTime stamped + (1 : UInt32) <<< 29 := h
    have hwindow := infinite_not_less_iff stamped nextStamp
    rw [← h] at hwindow
    split_ifs with hless
    · rw [armedBy_some]
      simpa using hwindow.not.mp (not_not.mpr hless)
    · have hmissed := hwindow.mp hless
      refine ⟨fun harmed => absurd harmed not_armedBy_none, fun hnot => ?_⟩
      simp only [Bool.and_eq_false_iff, decide_eq_false_iff_not] at hnot
      omega
  | some due =>
    have hneg := Stamp.neg_le_diff nextStamp (Stamp.ofTime now)
    rcases Nat.lt_or_ge now due with hahead | hdue
    · -- the comparison is with a timer that is still to come
      obtain hdue | ⟨hexpiry, hnear⟩ : due ≤ now ∨ expiry = Stamp.ofTime due ∧
        due < now + 2 ^ 31 := h
      · omega
      · have hless_iff := due_not_less_iff nextStamp hahead hnear
        rw [hexpiry]
        split_ifs with hless
        · rw [armedBy_some]
          simp only [le_refl, true_iff, decide_eq_false_iff_not]
          intro hmissed
          exact hless_iff.mpr (Or.inr hmissed) hless
        · rw [armedBy_some, decide_eq_false_iff_not]
          rcases hless_iff.mp hless with hlater | hmissed <;> omega
    · have hnot : ¬ Stamp.diff nextStamp (Stamp.ofTime now) + 2 ^ 31 < (due : ℤ) - now := by omega
      split_ifs
      · rw [armedBy_some]
        simpa using hnot
      · rw [armedBy_some, decide_eq_false_iff_not]
        exact ⟨fun _ => hnot, fun _ => by omega⟩

variable (m : CoapModule)

theorem CoapModule.event_wait (ctx : CoapTimer) (now : ℕ) (nextStamp : UInt32) :
    m.event ctx now (.wait nextStamp) = handleWait ctx now nextStamp := by
  cases m <;> rfl

theorem CoapModule.restamp_eq (ctx : CoapTimer) (now : ℕ) :
    m.restamp ctx now = setInfiniteStamp ctx now := by
  cases m <;> rfl

theorem ExpiryMatches.event (h : ExpiryMatches ctx now stamped) (m : CoapModule)
    (next : CoapModuleNextEvent) : ExpiryMatches (m.event ctx now next) now stamped := by
  cases next with
  | wait nextStamp =>
    rw [m.event_wait]
    exact h.handleWait nextStamp
  | other => exact h

def Punctual (h : CoapTimerHistory) : Prop := ∀ timeout ∈ h.awaited, ArmedBy h.ctx timeout

def missesNext (ctx : CoapTimer) (now stamped : ℕ) : CoapModuleNextEvent → Bool
  | .wait nextStamp => soon now nextStamp && missed ctx now stamped nextStamp
  | .other => false

def missesTimeout (h : CoapTimerHistory) : CoapTimerEvent → Bool
  | .pass _ => false
  | .event next => missesNext h.ctx h.now h.stamped next
  | .timeout next =>
    missesNext (setInfiniteStamp { h.ctx with timer := none } h.now) h.now h.now next

theorem event_punctual_iff (h : ExpiryMatches ctx now stamped) (m : CoapModule)
    (next : CoapModuleNextEvent) :
    (∀ timeout ∈ next.awaits now, ArmedBy (m.event ctx now next) timeout) ↔
      missesNext ctx now stamped next = false := by
  cases next with
  | other => simp [CoapModuleNextEvent.awaits, missesNext]
  | wait nextStamp =>
    rw [m.event_wait, CoapModuleNextEvent.awaits, missesNext]
    cases hsoon : soon now nextStamp with
    | false => simp
    | true =>
      rw [Bool.true_and, ← handleWait_armed_iff h]
      simp

variable {e : CoapTimerEvent}

theorem coapTimerStep_iff {m : CoapModule} {h h' : CoapTimerHistory}
    (hexpiry : ExpiryMatches h.ctx h.now h.stamped)
    (hpunctual : Punctual h) (hs : coapTimerStep m h e = some h') :
    (Punctual h' ↔ missesTimeout h e = false) ∧ ExpiryMatches h'.ctx h'.now h'.stamped := by
  cases e with
  | pass milliseconds =>
    cases hs
    exact ⟨⟨fun _ => rfl, fun _ => hpunctual⟩, hexpiry.pass milliseconds⟩
  | event next =>
    cases hs
    exact ⟨event_punctual_iff hexpiry m next, hexpiry.event m next⟩
  | timeout next =>
    obtain ⟨-, rfl⟩ := Machine.of_guard hs
    have hstamped : ExpiryMatches
      (setInfiniteStamp { h.ctx with timer := none } h.now) h.now h.now := rfl
    unfold CoapModule.handleTimeout
    rw [m.restamp_eq]
    exact ⟨event_punctual_iff hstamped m next, hstamped.event m next⟩

theorem expiryMatches_init (start : ℕ) :
    ExpiryMatches (coapTimer m start).init.ctx start start := by
  dsimp only [coapTimer]
  rw [m.restamp_eq]
  rfl

theorem punctual_init (start : ℕ) : Punctual (coapTimer m start).init := by
  intro timeout hawaited
  cases hawaited

/-- In a history of the CoAP client or server the timer is always armed in time exactly when
no timeout is missed. -/
theorem coapTimer_punctual_iff {m : CoapModule} {start : ℕ} {evs : List CoapTimerEvent}
    {s : CoapTimerHistory} (h : (coapTimer m start).Run evs s) :
    (∀ t, (coapTimer m start).Visits evs t → Punctual t) ↔
      ∀ t e, (coapTimer m start).Takes evs t e → missesTimeout t e = false := by
  refine h.good_iff_takes (fun t => ExpiryMatches t.ctx t.now t.stamped) Punctual _
    (expiryMatches_init m start) (punctual_init m start) ?_
  intro t e t' hinv hgood hs
  obtain ⟨hiff, hinv'⟩ := coapTimerStep_iff hinv hgood hs
  exact ⟨hiff, fun _ => hinv'⟩

/-- Shortly before the clock wraps a request is sent and waits for its retransmission; the
timer fires a little late, and the next wait is for an earlier timeout than the one before. -/
def retransmissions : List CoapTimerEvent :=
  [.event (.wait (Stamp.ofTime (2 ^ 32 + 1000))), .pass 2005,
    .timeout (.wait (Stamp.ofTime (2 ^ 32 + 5000))), .event (.wait (Stamp.ofTime (2 ^ 32 + 3000))),
    .pass 2000, .timeout .other]

theorem coapTimer_punctual_retransmissions :
    (∃ s, (coapTimer .client (2 ^ 32 - 1000)).Run retransmissions s) ∧
      ∀ t, (coapTimer .client (2 ^ 32 - 1000)).Visits retransmissions t → Punctual t := by
  have hr : (coapTimer .client (2 ^ 32 - 1000)).Run retransmissions _ := Machine.run_of_exec rfl
  refine ⟨⟨_, hr⟩, (coapTimer_punctual_iff hr).mpr fun t e ht => ?_⟩
  exact Machine.takes_eq_false_of_allTaken (by decide +kernel) ht

/-- The module has had nothing to do for six days and a quarter. Then a request is sent that
has to be retransmitted after two seconds. -/
def idleWeek : List CoapTimerEvent :=
  [.pass (2 ^ 29), .event .other, .event (.wait (Stamp.ofTime (2 ^ 29 + 2000)))]

/-- No timer is armed, in the client and in the server. -/
theorem idle_module_misses_timeout :
    (∃ s, (coapTimer .client 0).Run idleWeek s ∧
        s.awaited = some (2 ^ 29 + 2000) ∧ s.ctx.timer = none ∧ ¬ Punctual s) ∧
      ∃ s, (coapTimer .server 0).Run idleWeek s ∧
        s.awaited = some (2 ^ 29 + 2000) ∧ s.ctx.timer = none ∧ ¬ Punctual s := by
  refine ⟨⟨_, Machine.run_of_exec rfl, by decide +kernel, by decide +kernel, ?_⟩,
    ⟨_, Machine.run_of_exec rfl, by decide +kernel, by decide +kernel, ?_⟩⟩
  all_goals
    intro hpunctual
    exact not_armedBy_none (hpunctual (2 ^ 29 + 2000) (by decide +kernel))

/-! ### A module that is not idle for long -/

/-- A missed timeout is one that has passed, or comes `2 ^ 28` or more after the module was
started or its timer has fired, when no timer is armed. -/
theorem missed_eq_false {nextStamp : UInt32} (h : ExpiryMatches ctx now stamped)
    (hstamped : stamped ≤ now) (hrecent : ctx.timer = none → now < stamped + 2 ^ 28)
    (hahead : 0 ≤ nabtoCoapStampDiff nextStamp (Stamp.ofTime now))
    (hsoon : soon now nextStamp = true) : missed ctx now stamped nextStamp = false := by
  obtain ⟨expiry, timer⟩ := ctx
  unfold nabtoCoapStampDiff at hahead
  replace hsoon : Stamp.diff nextStamp (Stamp.ofTime now) ≤ 2 ^ 28 := of_decide_eq_true hsoon
  cases timer with
  | none =>
    replace hrecent := hrecent rfl
    have hpassed : (nextStamp - Stamp.ofTime stamped).toNat < 2 ^ 29 := by
      rw [← Stamp.ofTime_add_diff hahead, Stamp.toNat_ofTime_sub (by omega) (by omega)]
      omega
    exact Bool.and_eq_false_iff.mpr (Or.inl (decide_eq_false (by omega)))
  | some due =>
    replace h : due ≤ now ∨ expiry = Stamp.ofTime due ∧ due < now + 2 ^ 31 := h
    exact decide_eq_false (by unfold nabtoCoapStampDiff; omega)

def CoapModuleNextEvent.Ahead (now : ℕ) : CoapModuleNextEvent → Prop
  | .wait nextStamp => 0 ≤ nabtoCoapStampDiff nextStamp (Stamp.ofTime now)
  | .other => True

def Recent (h : CoapTimerHistory) : CoapTimerEvent → Prop
  | .pass _ => True
  | .event next => next.Ahead h.now ∧ (h.ctx.timer = none → h.now < h.stamped + 2 ^ 28)
  | .timeout next => next.Ahead h.now

instance (now : ℕ) : (next : CoapModuleNextEvent) → Decidable (next.Ahead now)
  | .wait nextStamp => inferInstanceAs
    (Decidable (0 ≤ nabtoCoapStampDiff nextStamp (Stamp.ofTime now)))
  | .other => inferInstanceAs (Decidable True)

instance (h : CoapTimerHistory) : (e : CoapTimerEvent) → Decidable (Recent h e)
  | .pass _ => inferInstanceAs (Decidable True)
  | .event next => inferInstanceAs (Decidable (next.Ahead h.now ∧ (_ → _)))
  | .timeout next => inferInstanceAs (Decidable (next.Ahead h.now))

theorem missesNext_eq_false {next : CoapModuleNextEvent} (h : ExpiryMatches ctx now stamped)
    (hstamped : stamped ≤ now) (hrecent : ctx.timer = none → now < stamped + 2 ^ 28)
    (hahead : next.Ahead now) : missesNext ctx now stamped next = false := by
  cases next with
  | other => rfl
  | wait nextStamp =>
    rw [missesNext]
    cases hsoon : soon now nextStamp with
    | false => rfl
    | true => exact missed_eq_false h hstamped hrecent hahead hsoon

theorem missesTimeout_eq_false {h : CoapTimerHistory}
    (hexpiry : ExpiryMatches h.ctx h.now h.stamped)
    (hstamped : h.stamped ≤ h.now) (hrecent : Recent h e) : missesTimeout h e = false := by
  cases e with
  | pass milliseconds => rfl
  | event next => exact missesNext_eq_false hexpiry hstamped hrecent.2 hrecent.1
  | timeout next => exact missesNext_eq_false rfl le_rfl (fun _ => by omega) hrecent

theorem stamped_le_step {m : CoapModule} {h h' : CoapTimerHistory} (hstamped : h.stamped ≤ h.now)
    (hs : coapTimerStep m h e = some h') : h'.stamped ≤ h'.now := by
  cases e with
  | pass milliseconds =>
    cases hs
    exact Nat.le_add_right_of_le hstamped
  | event next =>
    cases hs
    exact hstamped
  | timeout next =>
    obtain ⟨-, rfl⟩ := Machine.of_guard hs
    exact le_rfl

/-- When all timeouts are ahead and no idle time lasts for `2 ^ 28`, about three days, the
timer is always armed in time. -/
theorem coapTimer_punctual_of_recent {m : CoapModule} {start : ℕ} {evs : List CoapTimerEvent}
    {s : CoapTimerHistory} (hrecent : ∀ t e, (coapTimer m start).Takes evs t e → Recent t e)
    (hv : (coapTimer m start).Visits evs s) : Punctual s := by
  have hinv := hv.invariant_of_takes
    (fun t => (ExpiryMatches t.ctx t.now t.stamped ∧ t.stamped ≤ t.now) ∧
      Punctual t) Recent ?_ ?_ hrecent
  · exact hinv.2
  · exact ⟨⟨expiryMatches_init m start, le_rfl⟩, punctual_init m start⟩
  · rintro t e t' ⟨⟨hexpiry, hstamped⟩, hpunctual⟩ hrecent hs
    obtain ⟨hiff, hexpiry'⟩ := coapTimerStep_iff hexpiry hpunctual hs
    have hnone := missesTimeout_eq_false hexpiry hstamped hrecent
    exact ⟨⟨hexpiry', stamped_le_step hstamped hs⟩, hiff.mpr hnone⟩

theorem coapTimer_punctual_of_recent_retransmissions :
    (∃ s, (coapTimer .client (2 ^ 32 - 1000)).Run retransmissions s ∧ 2 ^ 32 < s.now) ∧
      ∀ s, (coapTimer .client (2 ^ 32 - 1000)).Visits retransmissions s → Punctual s := by
  have hr : (coapTimer .client (2 ^ 32 - 1000)).Run retransmissions _ := Machine.run_of_exec rfl
  refine ⟨⟨_, hr, by decide +kernel⟩,
    fun s hs => coapTimer_punctual_of_recent (fun t e ht => ?_) hs⟩
  exact of_decide_eq_true
    (Machine.takes_of_allTaken (g := fun t e => decide (Recent t e)) (by decide +kernel) ht)

end NabtoDevice
