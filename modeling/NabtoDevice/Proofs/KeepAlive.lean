import NabtoDevice.Spec.KeepAliveRuns
import Mathlib.Data.UInt
import Mathlib.Tactic.Common

/-! Keep alive: the settings that the server chooses, what is derived from them, and the
law of the ticks. -/

namespace NabtoDevice

/-! ### Settings from the server -/

theorem setSettings_eq_some {ka ka' : NcKeepAlive} {interval retryInterval maxRetries : UInt32}
    (h : setSettings ka interval retryInterval maxRetries = some ka') :
    retryInterval ≠ 0 ∧ ka' = ncKeepAliveSetSettings ka interval retryInterval maxRetries := by
  unfold setSettings divide at h
  by_cases hzero : retryInterval = 0
  · simp [hzero] at h
  · rw [if_neg hzero] at h
    exact ⟨hzero, (Option.some.inj h).symm⟩

theorem setSettings_of_ne {interval retryInterval maxRetries : UInt32} (ka : NcKeepAlive)
    (h : retryInterval ≠ 0) :
    setSettings ka interval retryInterval maxRetries =
      some (ncKeepAliveSetSettings ka interval retryInterval maxRetries) := by
  unfold setSettings divide
  rw [if_neg h]
  rfl

/-- The settings of an attach start response are taken without a division by zero and leave
an interval for the ticks, if and only if they have a retry interval that is not a multiple
of `2 ^ 32`, or there are none and the interval was positive before. -/
theorem attached_settings_safe_iff (ka : NcKeepAlive) (keepAlive : Option KeepAliveMap) :
    (∃ ka', handleAttachedKeepAlive ka keepAlive = some ka' ∧ ncKeepAliveWaitInterval ka' ≠ 0) ↔
      match KeepAliveMap.settings? keepAlive with
      | some (_, retryInterval, _) => retryInterval.toNat % 2 ^ 32 ≠ 0
      | none => ka.kaRetryInterval ≠ 0 := by
  unfold handleAttachedKeepAlive
  cases KeepAliveMap.settings? keepAlive with
  | none => simp [ncKeepAliveWaitInterval]
  | some settings =>
    obtain ⟨interval, retryInterval, maxRetries⟩ := settings
    dsimp only
    have hzero : retryInterval.toUInt32 = 0 ↔ retryInterval.toNat % 2 ^ 32 = 0 := by
      rw [← UInt32.toNat_inj]
      simp
    rw [Ne, ← hzero]
    constructor
    · rintro ⟨ka', hset, -⟩
      exact (setSettings_eq_some hset).1
    · intro hne
      exact ⟨_, setSettings_of_ne ka hne, hne⟩

/-- What the settings of a response do is what the model of the attacher does with them. -/
theorem handleAttachedKeepAlive_eq {ctx : NcAttachContext} {keepAlive : Option KeepAliveMap}
    {ka' : NcKeepAlive} (h : handleAttachedKeepAlive ctx.keepAlive keepAlive = some ka') :
    (handleAttached ctx (KeepAliveMap.settings? keepAlive)).keepAlive = ka' := by
  unfold handleAttachedKeepAlive at h
  cases hsettings : KeepAliveMap.settings? keepAlive with
  | none =>
    rw [hsettings] at h
    exact Option.some.inj h
  | some settings =>
    rw [hsettings] at h
    exact (setSettings_eq_some h).2.symm

/-- A server that asks for a retry interval of `2 ^ 32` milliseconds. -/
theorem attached_settings_divide_by_zero :
    handleAttachedKeepAlive ncKeepAliveInit
      (some ⟨some 30000, some 4294967296, some 15⟩) = none := by
  decide

/-! ### The number of silent ticks -/

structure NcKeepAlive.Derived (ka : NcKeepAlive) : Prop where
  n : ka.n = ka.kaInterval / ka.kaRetryInterval
  defaults : ka.kaInterval = ncKeepAliveDefaultInterval →
    ka.kaRetryInterval = ncKeepAliveDefaultRetryInterval → ka.n = ncKeepAliveInit.n

/-- A reset that leaves another number of ticks than the default settings have. -/
def resetsStale (ka : NcKeepAlive) : KeepAliveCall → Bool
  | .reset => ka.n ≠ ncKeepAliveInit.n
  | _ => false

theorem NcKeepAlive.derived_iff (ka : NcKeepAlive) :
    ka.Derived ↔ ka.n = ka.kaInterval / ka.kaRetryInterval := by
  refine ⟨fun h => h.n, fun h => ⟨h, fun hinterval hretry => ?_⟩⟩
  rw [h, hinterval, hretry]
  rfl

/-- Over every sequence of calls the number of silent ticks is that of the settings, if and
only if no reset finds another number than that of the default settings. -/
theorem keepAlive_derived_iff {evs : List KeepAliveCall} {s : NcKeepAlive}
    (h : keepAliveCalls.Run evs s) :
    (∀ t, keepAliveCalls.Visits evs t → t.Derived) ↔
      ∀ t e, keepAliveCalls.Takes evs t e → resetsStale t e = false := by
  refine h.good_iff_takes (fun _ => True) NcKeepAlive.Derived _ trivial
    ((NcKeepAlive.derived_iff _).mpr rfl) ?_
  intro ka e ka' _ _ hs
  refine ⟨?_, fun _ => trivial⟩
  rw [NcKeepAlive.derived_iff]
  cases e with
  | init =>
    cases hs
    exact ⟨fun _ => rfl, fun _ => rfl⟩
  | setSettings interval retryInterval maxRetries =>
    obtain ⟨-, rfl⟩ := setSettings_eq_some hs
    exact ⟨fun _ => rfl, fun _ => rfl⟩
  | reset =>
    cases hs
    have hn : (ncKeepAliveReset ka).n = ka.n := rfl
    have hdefault : (ncKeepAliveReset ka).kaInterval / (ncKeepAliveReset ka).kaRetryInterval =
        ncKeepAliveInit.n := rfl
    rw [hn, hdefault]
    simp [resetsStale]

/-- The server halves both intervals; after a detach the next one has settings of its own. -/
theorem keepAlive_derived_same_ratio :
    (keepAliveCalls.exec [.setSettings 15000 1000 10, .reset, .setSettings 60000 1000 3]).map
      (·.n) = some 60 ∧
      ∀ t, keepAliveCalls.Visits [.setSettings 15000 1000 10, .reset, .setSettings 60000 1000 3] t →
        t.Derived := by
  have hr : keepAliveCalls.Run [.setSettings 15000 1000 10, .reset, .setSettings 60000 1000 3] _ :=
    Machine.run_of_exec rfl
  refine ⟨by decide +kernel, (keepAlive_derived_iff hr).mpr fun t e ht => ?_⟩
  exact Machine.takes_eq_false_of_allTaken (by decide +kernel) ht

/-- A server asks for a keep alive packet every minute; the next one has no settings. -/
theorem default_settings_with_stale_n :
    ∃ s, keepAliveCalls.Run [.setSettings 60000 1000 3, .reset] s ∧
      s.kaInterval = ncKeepAliveDefaultInterval ∧
        s.kaRetryInterval = ncKeepAliveDefaultRetryInterval ∧
      s.n = 60 ∧ ¬ s.Derived := by
  refine ⟨_, Machine.run_of_exec rfl, rfl, rfl, by decide, fun h => ?_⟩
  exact absurd h.n (by decide)

/-! ### Ticks -/

namespace KeepAliveTicks

variable {s : KeepAliveTicks} {e : KeepAliveTick} {n maxRetries : ℕ}

/-- What a tick has to return: nothing to do and a new count when both counters have advanced;
otherwise a timeout from the tick `maxRetries + n + 2` of the count on and not before, and a
request only after `n` ticks, at most `maxRetries + 1` times. -/
structure Lawful (n maxRetries : ℕ) (s : KeepAliveTicks) (e : KeepAliveTick) : Prop where
  restart : s.advanced e = true → (s.tick e).action = .doNothing ∧ (s.tick e).ka.lostKeepAlives = 0
  timeout : s.advanced e = false →
    ((s.tick e).action = .kaTimeout ↔ maxRetries + n + 2 ≤ (s.tick e).silent)
  late : s.advanced e = false → (s.tick e).action = .sendKa → n < (s.tick e).silent
  few : (s.tick e).sends ≤ maxRetries + 1

def seesTraffic (s : KeepAliveTicks) (e : KeepAliveTick) : Bool :=
  UInt32.ofNat (s.recvCount + e.received) > UInt32.ofNat s.lastRecvCount &&
    UInt32.ofNat (s.sentCount + e.sent) > UInt32.ofNat s.lastSentCount

/-- The counters have advanced past a wrap, so that they do not compare as greater; or the
limit has wrapped and the count has reached what is left of it. -/
def misjudges (n maxRetries : ℕ) (s : KeepAliveTicks) (e : KeepAliveTick) : Bool :=
  if s.advanced e then !s.seesTraffic e
  else 2 ^ 32 ≤ maxRetries + n + 1 && (maxRetries + n) % 2 ^ 32 < s.silent

/-- The context agrees with the exact counters. The count of the code stops with the tick
before the timeout. -/
structure Counted (n maxRetries : ℕ) (s : KeepAliveTicks) : Prop where
  settings : s.ka.n.toNat = n ∧ s.ka.kaMaxRetries.toNat = maxRetries
  lastRecvCount : s.ka.lastRecvCount = UInt32.ofNat s.lastRecvCount
  lastSentCount : s.ka.lastSentCount = UInt32.ofNat s.lastSentCount
  recvCount : s.lastRecvCount ≤ s.recvCount
  sentCount : s.lastSentCount ≤ s.sentCount
  lost : s.ka.lostKeepAlives.toNat = min s.silent (maxRetries + n + 1) % 2 ^ 32
  sends : s.sends ≤ min s.silent (maxRetries + n + 1) - n

theorem Counted.advanced_of_sees (h : s.Counted n maxRetries) (hsees : s.seesTraffic e = true) :
    s.advanced e = true := by
  have hrecv := h.recvCount
  have hsent := h.sentCount
  simp only [seesTraffic, gt_iff_lt, Bool.and_eq_true, decide_eq_true_eq] at hsees
  simp only [advanced, Bool.and_eq_true, decide_eq_true_eq]
  refine ⟨Nat.lt_of_le_of_ne (by omega) fun heq => ?_, Nat.lt_of_le_of_ne (by omega) fun heq => ?_⟩
  · rw [← heq] at hsees
    exact absurd hsees.1 (UInt32.lt_irrefl _)
  · rw [← heq] at hsees
    exact absurd hsees.2 (UInt32.lt_irrefl _)

theorem Counted.shouldSend_eq (h : s.Counted n maxRetries) (e : KeepAliveTick) :
    s.shouldSend e =
      if s.seesTraffic e then
        ({ s.ka with
          isSending := e.isSending, lostKeepAlives := 0
          lastRecvCount := UInt32.ofNat (s.recvCount + e.received)
          lastSentCount := UInt32.ofNat (s.sentCount + e.sent) }, .doNothing)
      else if s.ka.lostKeepAlives > s.ka.kaMaxRetries + s.ka.n then
        ({ s.ka with isSending := e.isSending }, .kaTimeout)
      else
        ({ s.ka with isSending := e.isSending, lostKeepAlives := s.ka.lostKeepAlives + 1 },
          if e.isSending = false ∧ s.ka.lostKeepAlives + 1 > s.ka.n then .sendKa
          else .doNothing) := by
  have hsees : (UInt32.ofNat (s.recvCount + e.received) > s.ka.lastRecvCount ∧
      UInt32.ofNat (s.sentCount + e.sent) > s.ka.lastSentCount) ↔ s.seesTraffic e = true := by
    rw [h.lastRecvCount, h.lastSentCount]
    simp [seesTraffic]
  unfold shouldSend ncKeepAliveShouldSend
  dsimp only
  simp only [hsees]

/-- The test for the timeout, in a state that is not misjudged. -/
theorem Counted.timeout_iff (h : s.Counted n maxRetries)
    (hlimit : maxRetries + n + 1 < 2 ^ 32 ∨ s.silent ≤ (maxRetries + n) % 2 ^ 32) :
    s.ka.lostKeepAlives > s.ka.kaMaxRetries + s.ka.n ↔ maxRetries + n + 1 ≤ s.silent := by
  rw [gt_iff_lt, UInt32.lt_iff_toNat_lt, UInt32.toNat_add, h.lost, h.settings.1, h.settings.2]
  omega

theorem Counted.lost_succ (h : s.Counted n maxRetries) (hlimit : s.silent ≤ maxRetries + n) :
    (s.ka.lostKeepAlives + 1).toNat = (s.silent + 1) % 2 ^ 32 := by
  rw [UInt32.toNat_add, h.lost, Nat.min_eq_left (by omega)]
  simp

theorem tick_advanced (h : s.advanced e = true) :
    s.tick e =
      { ka := (s.shouldSend e).1, action := (s.shouldSend e).2
        recvCount := s.recvCount + e.received, sentCount := s.sentCount + e.sent
        lastRecvCount := s.recvCount + e.received, lastSentCount := s.sentCount + e.sent
        silent := 0, sends := 0 } := by
  unfold tick
  dsimp only
  rw [if_pos h]

theorem tick_silent (h : s.advanced e = false) :
    s.tick e =
      { s with
        ka := (s.shouldSend e).1, action := (s.shouldSend e).2
        recvCount := s.recvCount + e.received, sentCount := s.sentCount + e.sent
        silent := s.silent + 1
        sends := if (s.shouldSend e).2 = .sendKa then s.sends + 1 else s.sends } := by
  unfold tick
  dsimp only
  rw [if_neg (by simp [h])]

theorem lawful_advanced (h : s.Counted n maxRetries) (hadv : s.advanced e = true)
    (hsees : s.seesTraffic e = true) :
    s.Lawful n maxRetries e ∧ (s.tick e).Counted n maxRetries := by
  have hsend := h.shouldSend_eq e
  rw [if_pos hsees] at hsend
  have htick := tick_advanced hadv
  rw [hsend] at htick
  constructor
  · refine ⟨fun _ => ?_, fun hnot => ?_, fun hnot => ?_, ?_⟩
    · rw [htick]
      exact ⟨rfl, rfl⟩
    · rw [hadv] at hnot
      cases hnot
    · rw [hadv] at hnot
      cases hnot
    · rw [htick]
      exact Nat.zero_le _
  · rw [htick]
    exact ⟨h.settings, rfl, rfl, le_rfl, le_rfl, by simp, by simp⟩

theorem lawful_timeout (h : s.Counted n maxRetries) (hadv : s.advanced e = false)
    (hsend : s.shouldSend e = ({ s.ka with isSending := e.isSending }, .kaTimeout))
    (hlate : maxRetries + n + 1 ≤ s.silent) :
    s.Lawful n maxRetries e ∧ (s.tick e).Counted n maxRetries := by
  have htick := tick_silent hadv
  rw [hsend] at htick
  have hsends := h.sends
  constructor
  · refine ⟨fun hnot => ?_, fun _ => ?_, fun _ hact => ?_, ?_⟩
    · rw [hadv] at hnot
      cases hnot
    · rw [htick]
      exact ⟨fun _ => by dsimp only; omega, fun _ => rfl⟩
    · rw [htick] at hact
      cases hact
    · rw [htick]
      dsimp only
      rw [if_neg (by simp)]
      omega
  · rw [htick]
    have hrecv := h.recvCount
    have hsent := h.sentCount
    refine ⟨h.settings, h.lastRecvCount, h.lastSentCount, by dsimp only; omega,
      by dsimp only; omega, ?_, ?_⟩
    · have hlost := h.lost
      rw [Nat.min_eq_right (by omega)] at hlost
      dsimp only
      rw [hlost, Nat.min_eq_right (by omega)]
    · dsimp only
      rw [if_neg (by simp)]
      omega

theorem lawful_count (h : s.Counted n maxRetries) (hadv : s.advanced e = false)
    (hsend : s.shouldSend e =
      ({ s.ka with isSending := e.isSending, lostKeepAlives := s.ka.lostKeepAlives + 1 },
        if e.isSending = false ∧ s.ka.lostKeepAlives + 1 > s.ka.n then .sendKa else .doNothing))
    (hearly : s.silent ≤ maxRetries + n) :
    s.Lawful n maxRetries e ∧ (s.tick e).Counted n maxRetries := by
  have htick := tick_silent hadv
  rw [hsend] at htick
  have hlost := h.lost_succ hearly
  have hsends := h.sends
  have hsettings := h.settings.1
  -- a request is sent only after `n` ticks of the count
  have hafter (hact : (s.shouldSend e).2 = .sendKa) : n < s.silent + 1 := by
    rw [hsend] at hact
    by_cases hn : s.ka.lostKeepAlives + 1 > s.ka.n
    · rw [gt_iff_lt, UInt32.lt_iff_toNat_lt, hlost, hsettings] at hn
      exact Nat.lt_of_lt_of_le hn (Nat.mod_le _ _)
    · simp [hn] at hact
  have hfew : (if (s.shouldSend e).2 = .sendKa then s.sends + 1 else s.sends) ≤
      min (s.silent + 1) (maxRetries + n + 1) - n := by
    split_ifs with hact
    · have hlt := hafter hact
      omega
    · omega
  rw [hsend] at hfew
  constructor
  · refine ⟨fun hnot => ?_, fun _ => ?_, fun _ hact => ?_, ?_⟩
    · rw [hadv] at hnot
      cases hnot
    · rw [htick]
      dsimp only
      split_ifs <;> simp <;> omega
    · rw [htick] at hact ⊢
      exact hafter (by rw [hsend]; exact hact)
    · rw [htick]
      dsimp only at hfew ⊢
      omega
  · rw [htick]
    have hrecv := h.recvCount
    have hsent := h.sentCount
    refine ⟨h.settings, h.lastRecvCount, h.lastSentCount, by dsimp only; omega,
      by dsimp only; omega, ?_, hfew⟩
    dsimp only
    rw [hlost, Nat.min_eq_left (by omega)]

theorem lawful_step (h : s.Counted n maxRetries) (he : s.misjudges n maxRetries e = false) :
    s.Lawful n maxRetries e ∧ (s.tick e).Counted n maxRetries := by
  unfold misjudges at he
  cases hadv : s.advanced e with
  | true =>
    rw [hadv, if_pos rfl] at he
    exact lawful_advanced h hadv (by simpa using he)
  | false =>
    have hsees : ¬ s.seesTraffic e = true := fun hsees => by
      rw [h.advanced_of_sees hsees] at hadv
      cases hadv
    rw [hadv, if_neg (by simp), Bool.and_eq_false_iff, decide_eq_false_iff_not,
      decide_eq_false_iff_not] at he
    have htimeout := h.timeout_iff (by omega)
    have hsend := h.shouldSend_eq e
    rw [if_neg hsees] at hsend
    by_cases hlate : maxRetries + n + 1 ≤ s.silent
    · rw [if_pos (htimeout.mpr hlate)] at hsend
      exact lawful_timeout h hadv hsend hlate
    · rw [if_neg (fun hgt => hlate (htimeout.mp hgt))] at hsend
      exact lawful_count h hadv hsend (by omega)

end KeepAliveTicks

/-- In every run of ticks that are not misjudged, each of them returns what it has to. -/
theorem keepAlive_ticks_lawful {ka : NcKeepAlive} {interval retryInterval maxRetries : UInt32}
    {recvCount sentCount : ℕ} {evs : List KeepAliveTick}
    (hticks : ∀ t e,
      (keepAliveTicks ka interval retryInterval maxRetries recvCount sentCount).Takes evs t e →
      t.misjudges (interval.toNat / retryInterval.toNat) maxRetries.toNat e = false) :
    ∀ t e, (keepAliveTicks ka interval retryInterval maxRetries recvCount sentCount).Takes evs t e →
      t.Lawful (interval.toNat / retryInterval.toNat) maxRetries.toNat e := by
  intro t e ht
  refine (KeepAliveTicks.lawful_step ?_ (hticks t e ht)).1
  refine ht.visits.invariant_of_takes (KeepAliveTicks.Counted _ _)
    (fun u d => u.misjudges
      (interval.toNat / retryInterval.toNat) maxRetries.toNat d = false) ?_ ?_ hticks
  · refine ⟨⟨?_, rfl⟩, rfl, rfl, le_rfl, le_rfl, by simp [keepAliveTicks], by simp [keepAliveTicks]⟩
    exact UInt32.toNat_div ..
  · intro u d u' hu hd hs
    exact Option.some.inj hs ▸ (KeepAliveTicks.lawful_step hu hd).2

def silentTicks : List KeepAliveTick :=
  [⟨0, 0, false⟩, ⟨1, 0, false⟩, ⟨0, 2, false⟩, ⟨0, 0, false⟩, ⟨0, 1, false⟩, ⟨0, 1, false⟩,
    ⟨0, 1, false⟩, ⟨0, 1, false⟩]

theorem keepAlive_ticks_lawful_until_timeout :
    (silentTicks.inits.map fun pre =>
        ((keepAliveTicks ncKeepAliveInit 4000 2000 1 100 100).exec pre).map (·.action)) =
      [some .doNothing, some .doNothing, some .doNothing, some .doNothing, some .doNothing,
        some .doNothing, some .sendKa, some .sendKa, some .kaTimeout] ∧
    ∀ t e, (keepAliveTicks ncKeepAliveInit 4000 2000 1 100 100).Takes silentTicks t e →
      t.Lawful 2 1 e := by
  refine ⟨by decide +kernel, keepAlive_ticks_lawful fun t e ht => ?_⟩
  exact Machine.takes_eq_false_of_allTaken (by decide +kernel) ht

/-- The server allows `2 ^ 32 - 1` retries and one silent tick: the limit wraps to zero, and the
second tick is the timeout. And a counter that has just wrapped: the traffic is not seen, and the
count goes on. -/
theorem keepAlive_limit_and_counter_wrap :
    (((keepAliveTicks ncKeepAliveInit 2000 2000 4294967295 0 0).exec
        [⟨0, 0, false⟩, ⟨0, 0, false⟩]).map fun s => (s.silent, s.action)) = some (2, .kaTimeout) ∧
    (((keepAliveTicks ncKeepAliveInit 30000 2000 15 4294967295 100).exec
        [⟨1, 1, false⟩]).map fun s => (s.silent, s.ka.lostKeepAlives)) = some (0, 1) := by
  decide +kernel

end NabtoDevice
