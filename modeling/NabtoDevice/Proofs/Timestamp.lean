import NabtoDevice.Lib.Stamp
import NabtoDevice.Spec.Timestamp
import Mathlib.Order.Defs.Unbundled

/-! Stamps less than half a turn of the clock apart compare as their times unless the sign of
`int32_t` changes between them: then the subtraction overflows. The timer of the DTLS handshake
compares such stamps, and the stamp zero stands for a timer that is not set. -/

namespace NabtoDevice

open Stamp (diff offset)

variable {t1 t2 base : UInt32}

/-- The clock goes from the largest `int32_t` to the smallest one between the two stamps. -/
def SignTurns (t1 t2 : UInt32) : Prop :=
  (t1.toNat < 2 ^ 31 ∧ 2 ^ 31 ≤ t2.toNat ∧ 0 < diff t2 t1) ∨
    (t2.toNat < 2 ^ 31 ∧ 2 ^ 31 ≤ t1.toNat ∧ 0 < diff t1 t2)

def Near (t1 t2 : UInt32) : Prop := |diff t1 t2| < 2 ^ 31

/-- Both functions are defined at the stamps and go by the difference on the clock. -/
structure Comparable (t1 t2 : UInt32) : Prop where
  difference : npTimestampDifference t1 t2 = some (diff t1 t2)
  lessOrEqual : npTimestampLessOrEqual t1 t2 = some (decide (diff t1 t2 ≤ 0))

structure TotallyOrdered (stamps : Set UInt32) : Prop where
  refl : ∀ a ∈ stamps, npTimestampLessOrEqual a a = some true
  antisymm : ∀ a ∈ stamps, ∀ b ∈ stamps, npTimestampLessOrEqual a b = some true →
    npTimestampLessOrEqual b a = some true → a = b
  trans : ∀ a ∈ stamps, ∀ b ∈ stamps, ∀ c ∈ stamps, npTimestampLessOrEqual a b = some true →
    npTimestampLessOrEqual b c = some true → npTimestampLessOrEqual a c = some true
  total : ∀ a ∈ stamps, ∀ b ∈ stamps, npTimestampLessOrEqual a b = some true ∨
    npTimestampLessOrEqual b a = some true

theorem toInt32_eq (t : UInt32) :
    toInt32 t = if t.toNat < 2 ^ 31 then (t.toNat : ℤ) else t.toNat - 2 ^ 32 := by
  rw [toInt32, BitVec.toInt_eq_toNat_cond]
  have hnat : t.toBitVec.toNat = t.toNat := rfl
  split_ifs <;> omega

/-- The difference of the numbers is that on the clock, or a turn more or less. -/
theorem toInt32_sub (hnear : Near t1 t2) :
    (¬ SignTurns t1 t2 → toInt32 t1 - toInt32 t2 = diff t1 t2) ∧
      (SignTurns t1 t2 → 2 ^ 31 < |toInt32 t1 - toInt32 t2|) := by
  have hlt1 := t1.toNat_lt
  have hlt2 := t2.toNat_lt
  have h12 : (t1 - t2).toNat = (2 ^ 32 - t2.toNat + t1.toNat) % 2 ^ 32 := UInt32.toNat_sub t1 t2
  have h21 : (t2 - t1).toNat = (2 ^ 32 - t1.toNat + t2.toNat) % 2 ^ 32 := UInt32.toNat_sub t2 t1
  rw [Near, abs_lt] at hnear
  rw [SignTurns, lt_abs]
  simp only [toInt32_eq, Stamp.diff_eq, h12, h21] at *
  constructor <;> intro h <;> split_ifs at * <;> omega

theorem comparable_iff (hnear : Near t1 t2) : Comparable t1 t2 ↔ ¬ SignTurns t1 t2 := by
  have hlt := Stamp.diff_lt t1 t2
  have hge := Stamp.neg_le_diff t1 t2
  obtain ⟨hsame, hturn⟩ := toInt32_sub hnear
  constructor
  · rintro ⟨hdiff, -⟩ h
    have hfar := hturn h
    rw [npTimestampDifference, int32Sub, if_neg] at hdiff
    · cases hdiff
    · rintro ⟨hlow, hhigh⟩
      rw [lt_abs] at hfar
      omega
  · intro h
    have hsub : int32Sub (toInt32 t1) (toInt32 t2) = some (diff t1 t2) := by
      rw [int32Sub, hsame h, if_pos ⟨hge, hlt⟩]
    exact ⟨hsub, by rw [npTimestampLessOrEqual, hsub]; rfl⟩

theorem near_of_offset (h1 : offset base t1 < 2 ^ 31) (h2 : offset base t2 < 2 ^ 31) :
    Near t1 t2 := by
  have hsub : t1 - t2 = (t1 - base) - (t2 - base) := (sub_sub_sub_cancel_right t1 t2 base).symm
  unfold offset at *
  rw [Near, abs_lt, Stamp.diff_eq, hsub, UInt32.toNat_sub]
  constructor <;> split_ifs <;> omega

theorem offset_injective : Function.Injective (offset base) := by
  intro a b hab
  exact sub_left_injective (UInt32.toNat.inj hab)

/-- In a window of less than half a turn the stamps are ordered by their place in it. -/
theorem totallyOrdered_iff {stamps : Set UInt32} (hwindow : ∀ a ∈ stamps, offset base a < 2 ^ 31) :
    TotallyOrdered stamps ↔ ∀ a ∈ stamps, ∀ b ∈ stamps, ¬ SignTurns a b := by
  constructor
  · intro hord a ha b hb hturn
    have hfar := (toInt32_sub (near_of_offset (hwindow a ha) (hwindow b hb))).2 hturn
    rw [lt_abs] at hfar
    -- Neither of the two is at most the other, as both subtractions overflow.
    have hundefined : ∀ v1 v2 : ℤ, 2 ^ 31 < v1 - v2 ∨ 2 ^ 31 < -(v1 - v2) →
        int32Sub v1 v2 = none := by
      intro v1 v2 h
      rw [int32Sub, if_neg]
      omega
    rcases hord.total a ha b hb with hle | hle
    · rw [npTimestampLessOrEqual, hundefined _ _ hfar] at hle
      cases hle
    · rw [npTimestampLessOrEqual, hundefined _ _ (by omega)] at hle
      cases hle
  · intro hsame
    have hle : ∀ a ∈ stamps, ∀ b ∈ stamps,
        npTimestampLessOrEqual a b = some true ↔ offset base a ≤ offset base b := by
      intro a ha b hb
      have hnear := near_of_offset (hwindow a ha) (hwindow b hb)
      rw [((comparable_iff hnear).mpr (hsame a ha b hb)).lessOrEqual, Option.some.injEq,
        decide_eq_true_iff]
      exact Stamp.diff_nonpos_iff (hwindow a ha) (hwindow b hb)
    refine ⟨fun a ha => ?_, fun a ha b hb => ?_, fun a ha b hb c hc => ?_, fun a ha b hb => ?_⟩
    · rw [hle a ha a ha]
    · rw [hle a ha b hb, hle b hb a ha]
      exact fun hab hba => offset_injective (Nat.le_antisymm hab hba)
    · rw [hle a ha b hb, hle b hb c hc, hle a ha c hc]
      exact Nat.le_trans
    · rw [hle a ha b hb, hle b hb a ha]
      exact Nat.le_total _ _

/-- Two stamps near each other compare as they should exactly if the sign does not turn between
them, and those of a window exactly if it turns between no two of them. -/
theorem timestamps_comparable_iff (t1 t2 base : UInt32) (stamps : Set UInt32) :
    (Near t1 t2 → (Comparable t1 t2 ↔ ¬ SignTurns t1 t2)) ∧
      ((∀ a ∈ stamps, offset base a < 2 ^ 31) →
        (TotallyOrdered stamps ↔ ∀ a ∈ stamps, ∀ b ∈ stamps, ¬ SignTurns a b)) :=
  ⟨comparable_iff, totallyOrdered_iff⟩

/-- The two stamps next to the change of sign are one millisecond apart. -/
theorem timestamps_overflow :
    Near 0x80000000 0x7FFFFFFF ∧ diff 0x80000000 0x7FFFFFFF = 1 ∧
      npTimestampDifference 0x80000000 0x7FFFFFFF = none ∧ ¬ Comparable 0x80000000 0x7FFFFFFF ∧
      ¬ TotallyOrdered {0x80000000, 0x7FFFFFFF} := by
  have hundefined : npTimestampDifference 0x80000000 0x7FFFFFFF = none := by decide
  refine ⟨by unfold Near; decide, by decide, hundefined, fun h => ?_, fun h => ?_⟩
  · have hdiff := h.difference
    rw [hundefined] at hdiff
    cases hdiff
  · rcases h.total _ (.inl rfl) _ (.inr rfl) with hle | hle <;> exact absurd hle (by decide)

/-- What the handshake sees of the timer, `d` after it was set at the time `t` and at any time. -/
structure TimerSound (ctx : NmMbedtlsTimer) (t i f d : UInt32) : Prop where
  expiry : 0 < f → f.toNat < 2 ^ 30 → i ≤ f → d.toNat < 2 ^ 30 →
    nmMbedtlsTimerGetDelay (nmMbedtlsTimerSetDelay ctx t i f) (t + d) =
      some (if f ≤ d then 2 else if i ≤ d then 1 else 0)
  cancelled : ∀ now, nmMbedtlsTimerGetDelay (nmMbedtlsTimerSetDelay ctx t i f) now =
    some (-1) ↔ f = 0

theorem offset_add (t k : UInt32) : offset t (t + k) = k.toNat :=
  by rw [offset, add_sub_cancel_left]

theorem offset_add_lt (t : UInt32) {k : UInt32} (hk : k.toNat < 2 ^ 30) :
    offset t (t + k) < 2 ^ 31 := by
  rw [offset_add]
  omega

theorem near_add (t : UInt32) {m d : UInt32} (hm : m.toNat < 2 ^ 30) (hd : d.toNat < 2 ^ 30) :
    Near (t + m) (t + d) := near_of_offset (offset_add_lt t hm) (offset_add_lt t hd)

/-- A delay has passed when that much time has, unless the sign turns. -/
theorem lessOrEqual_add (t : UInt32) {m d : UInt32} (hm : m.toNat < 2 ^ 30) (hd : d.toNat < 2 ^ 30)
    (hsign : ¬ SignTurns (t + m) (t + d)) :
    npTimestampLessOrEqual (t + m) (t + d) = some (decide (m ≤ d)) := by
  have hle : diff (t + m) (t + d) ≤ 0 ↔ m ≤ d := by
    rw [Stamp.diff_nonpos_iff (offset_add_lt t hm) (offset_add_lt t hd), offset_add, offset_add,
      UInt32.le_iff_toNat_le]
  rw [((comparable_iff (near_add t hm hd)).mpr hsign).lessOrEqual, decide_eq_decide.mpr hle]

theorem lessOrEqual_eq_none (hnear : Near t1 t2) (h : SignTurns t1 t2) :
    npTimestampLessOrEqual t1 t2 = none := by
  have hfar := (toInt32_sub hnear).2 h
  rw [lt_abs] at hfar
  rw [npTimestampLessOrEqual, int32Sub, if_neg]
  · rfl
  · omega

theorem getDelay_eq_neg_one_iff (ctx : NmMbedtlsTimer) (now : UInt32) :
    nmMbedtlsTimerGetDelay ctx now = some (-1) ↔ ctx.finalTp = 0 := by
  rw [nmMbedtlsTimerGetDelay]
  by_cases h : ctx.finalTp = 0
  · simp [h]
  · rw [if_pos h]
    cases npTimestampLessOrEqual ctx.finalTp now with
    | none => simp [h]
    | some final =>
      cases npTimestampLessOrEqual ctx.intermediateTp now with
      | none => cases final <;> simp [h]
      | some intermediate => cases final <;> cases intermediate <;> simp [h]

/-- The sign turns in no comparison that the timer makes `d` after it was set. -/
def SteadyTimer (t i f d : UInt32) : Prop :=
  ¬ SignTurns (t + f) (t + d) ∧ (d < f → ¬ SignTurns (t + i) (t + d))

theorem getDelay_add_iff {ctx : NmMbedtlsTimer} {t i f d : UInt32} (hset : ctx.finalTp = t + f)
    (hinter : ctx.intermediateTp = t + i) (hne : t + f ≠ 0) (hf : f.toNat < 2 ^ 30) (hi : i ≤ f)
    (hd : d.toNat < 2 ^ 30) :
    nmMbedtlsTimerGetDelay ctx (t + d) = some (if f ≤ d then 2 else if i ≤ d then 1 else 0) ↔
      SteadyTimer t i f d := by
  have hi' : i.toNat < 2 ^ 30 := Nat.lt_of_le_of_lt (UInt32.le_iff_toNat_le.mp hi) hf
  rw [nmMbedtlsTimerGetDelay, hset, hinter, if_pos hne, SteadyTimer]
  by_cases hfinal : SignTurns (t + f) (t + d)
  · simp [lessOrEqual_eq_none (near_add t hf hd) hfinal, hfinal]
  by_cases hpassed : f ≤ d
  · simp [lessOrEqual_add t hf hd hfinal, hfinal, hpassed, UInt32.not_lt.mpr hpassed]
  have hlt : d < f := UInt32.not_le.mp hpassed
  by_cases hsign : SignTurns (t + i) (t + d)
  · simp [lessOrEqual_add t hf hd hfinal, lessOrEqual_eq_none (near_add t hi' hd) hsign, hfinal,
      hpassed, hsign, hlt]
  · by_cases hle : i ≤ d <;>
      simp [lessOrEqual_add t hf hd hfinal, lessOrEqual_add t hi' hd hsign, hfinal, hpassed,
        hsign, hle]

/-- The timer is seen as it was set exactly if it is cancelled, or its expiry is not the stamp zero
and the sign turns in none of its comparisons. -/
theorem mbedtlsTimer_sound_iff (ctx : NmMbedtlsTimer) (t i f d : UInt32) :
    TimerSound ctx t i f d ↔
      f = 0 ∨ t + f ≠ 0 ∧ (f.toNat < 2 ^ 30 → i ≤ f → d.toNat < 2 ^ 30 → SteadyTimer t i f d) := by
  by_cases hf : f = 0
  · subst hf
    refine iff_of_true ⟨fun h => absurd h (by decide), fun now => ?_⟩ (Or.inl rfl)
    rw [getDelay_eq_neg_one_iff]
    simp [nmMbedtlsTimerSetDelay]
  · have hset : nmMbedtlsTimerSetDelay ctx t i f = ⟨t + i, t + f, some f⟩ := if_neg hf
    constructor
    · intro hsound
      have hne : t + f ≠ 0 := by
        intro hzero
        refine hf ((hsound.cancelled t).mp ?_)
        rw [getDelay_eq_neg_one_iff, hset, hzero]
      refine Or.inr ⟨hne, fun hlt hle hd => ?_⟩
      have hexpiry := hsound.expiry (UInt32.pos_iff_ne_zero.mpr hf) hlt hle hd
      rw [hset] at hexpiry
      exact (getDelay_add_iff rfl rfl hne hlt hle hd).mp hexpiry
    · rintro (h | ⟨hne, hsteady⟩)
      · exact absurd h hf
      · refine ⟨fun _ hlt hle hd => ?_, fun now => ?_⟩
        · rw [hset]
          exact (getDelay_add_iff rfl rfl hne hlt hle hd).mpr (hsteady hlt hle hd)
        · rw [getDelay_eq_neg_one_iff, hset]
          exact iff_of_false hne hf

/-- Set one second before the clock turns to zero, with a delay of one second, the timer is seen
as cancelled although its event is in the queue. Set a moment before the sign turns it cannot be
read. -/
theorem mbedtlsTimer_seen_cancelled :
    ((nmMbedtlsTimerSetDelay ⟨0, 0, none⟩ (0 - 1000) 250 1000).tEv = some 1000 ∧
      nmMbedtlsTimerGetDelay (nmMbedtlsTimerSetDelay ⟨0, 0, none⟩ (0 - 1000) 250 1000)
        (0 - 1000 + 10) = some (-1) ∧
      ¬ TimerSound ⟨0, 0, none⟩ (0 - 1000) 250 1000 10) ∧
    nmMbedtlsTimerGetDelay (nmMbedtlsTimerSetDelay ⟨0, 0, none⟩ 0x7FFFFF00 250 1000)
        (0x7FFFFF00 + 10) = none ∧
      ¬ TimerSound ⟨0, 0, none⟩ 0x7FFFFF00 250 1000 10 := by
  refine ⟨⟨rfl, by decide, fun h => ?_⟩, by decide, fun h => ?_⟩
  · have hdelay := (h.cancelled (0 - 1000 + 10)).mp (by decide)
    exact absurd hdelay (by decide)
  · exact absurd (h.expiry (by decide) (by decide) (by decide) (by decide)) (by decide)

end NabtoDevice
