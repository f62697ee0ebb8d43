import NabtoDevice.Lib.Alternation
import NabtoDevice.Spec.AttachEndpoints
import Mathlib.Tactic.Common

/-! The resolutions of the multi resolver. The error code of a query is
`NABTO_EC_OPERATION_IN_PROGRESS` until its completion event has run, so a query that ends
with this code is taken for one that is still going on. -/

namespace NabtoDevice

open Alternation (alternate)

def DnsOutcome.bothFailed : DnsOutcome → DnsOutcome → Bool
  | .failed _, .failed _ => true
  | _, _ => false

/-- What a resolution has to end with, given how its two queries ended. -/
structure DnsCompletes (ipsSize : ℕ) (v4 v6 : DnsOutcome) (c : NpErrorCode × List NpIpAddress) :
    Prop where
  failed_iff : c.1 ≠ .ok ↔ v4.bothFailed v6 = true
  mixed : c.1 = .ok → c.2 = (alternate v4.ips v6.ips).take ipsSize
  reported : c.1 = .ok → 0 < ipsSize → c.2 ≠ []
  /-- The attacher writes one endpoint for each address, in their order and within its array. -/
  endpoints : c.1 = .ok → ipsSize = ncAttacherMaxIps → ∀ port,
    (dnsResolvedEndpoints port c.2).endpoints = (List.range c.2.length).zip (c.2.map (⟨·, port⟩)) ∧
      (dnsResolvedEndpoints port c.2).endpointsSize = c.2.length ∧
      ∀ w ∈ (dnsResolvedEndpoints port c.2).endpoints, w.1 < ncAttacherMaxEndpoints

namespace DnsResolutions

def Sound (s : DnsResolutions) : Prop :=
  match s.v4, s.v6 with
  | .completed v4, .completed v6 =>
    ∃ c, s.completions = [c] ∧ DnsCompletes s.resolver.ipsSize v4 v6 c
  | _, _ => s.completions = []

end DnsResolutions

def DnsResolutionEvent.failsInProgress : DnsResolutionEvent → Bool
  | .answer _ outcome => outcome = .failed .operationInProgress
  | _ => false

/-! ### The mixed addresses -/

/-- The loop of `dns_resolved_ec` alternates between the families as long as there is room. -/
theorem foldl_mixRound (ipsSize : ℕ) (v4Ips v6Ips : List NpIpAddress) (rounds : ℕ) :
    (List.range rounds).foldl (mixRound ipsSize v4Ips v6Ips) [] =
      (alternate (v4Ips.take rounds) (v6Ips.take rounds)).take ipsSize := by
  induction rounds with
  | zero => simp
  | succ k ih =>
    rw [List.range_succ, List.foldl_append, ih, List.foldl_cons, List.foldl_nil, mixRound]
    dsimp only
    rw [Alternation.take_append_toList, Alternation.take_append_toList,
      Alternation.alternate_take_succ]

theorem dnsResolvedEc_eq (ctx : NcDnsMultiResolver) (h : ctx.v4.ec = .ok ∨ ctx.v6.ec = .ok) :
    dnsResolvedEc ctx = (.ok,
      { ctx with ips := (alternate ctx.v4.ips ctx.v6.ips).take ctx.ipsSize }) := by
  have hok : ¬ (ctx.v4.ec ≠ .ok ∧ ctx.v6.ec ≠ .ok) := by tauto
  unfold dnsResolvedEc
  rw [if_neg hok]
  dsimp only
  rw [foldl_mixRound, List.take_of_length_le (Nat.le_add_right _ _),
    List.take_of_length_le (Nat.le_add_left _ _)]

theorem dnsResolvedRound_foldl (port : UInt16) (ips : List NpIpAddress)
    (endpoints : List (ℕ × NpUdpEndpoint)) (n : ℕ) :
    ips.foldl (dnsResolvedRound port) ⟨endpoints, n, 0⟩ =
      ⟨endpoints ++ (List.range' n ips.length).zip (ips.map (⟨·, port⟩)), n + ips.length, 0⟩ := by
  induction ips generalizing endpoints n with
  | nil => simp
  | cons ip ips ih =>
    have hround : dnsResolvedRound port ⟨endpoints, n, 0⟩ ip =
      ⟨endpoints ++ [(n, ⟨ip, port⟩)], n + 1, 0⟩ := rfl
    rw [List.foldl_cons, hround, ih, List.length_cons, List.range'_succ, List.map_cons,
      List.zip_cons_cons, List.append_assoc, List.singleton_append, Nat.add_right_comm,
        Nat.add_assoc]

/-- The bound of the loop never stops it, but no more addresses come than there is room for. -/
theorem dnsResolvedEndpoints_eq (port : UInt16) (ips : List NpIpAddress) :
    dnsResolvedEndpoints port ips =
      ⟨(List.range ips.length).zip (ips.map (⟨·, port⟩)), ips.length, 0⟩ := by
  rw [dnsResolvedEndpoints, dnsResolvedRound_foldl, List.nil_append, Nat.zero_add,
    List.range_eq_range']

variable {outcome : DnsOutcome}

theorem DnsOutcome.ips_ne_nil (hvalid : outcome.valid = true) (hok : outcome.ec = .ok) :
    0 < outcome.ips.length := by
  cases outcome with
  | failed ec => exact absurd hok (of_decide_eq_true hvalid)
  | found ips => exact of_decide_eq_true (Bool.and_eq_true_iff.mp hvalid).1

theorem DnsOutcome.bothFailed_iff {v4 v6 : DnsOutcome} (hv4 : v4.valid = true)
    (hv6 : v6.valid = true) : v4.bothFailed v6 = true ↔ v4.ec ≠ .ok ∧ v6.ec ≠ .ok := by
  cases v4 with
  | found ips => exact iff_of_false Bool.false_ne_true fun h => h.1 rfl
  | failed ec =>
    cases v6 with
    | found ips => exact iff_of_false Bool.false_ne_true fun h => h.2 rfl
    | failed ec' => exact iff_of_true rfl ⟨of_decide_eq_true hv4, of_decide_eq_true hv6⟩

/-- What `dns_resolved_ec` makes of two queries is what the resolution has to end with. -/
theorem dnsCompletes_dnsResolvedEc {ctx : NcDnsMultiResolver} {v4 v6 : DnsOutcome}
    (hv4 : v4.valid = true) (hv6 : v6.valid = true) (hv4ec : ctx.v4.ec = v4.ec)
    (hv6ec : ctx.v6.ec = v6.ec) (hv4ips : ctx.v4.ips = v4.ips) (hv6ips : ctx.v6.ips = v6.ips) :
    DnsCompletes ctx.ipsSize v4 v6 ((dnsResolvedEc ctx).1, (dnsResolvedEc ctx).2.ips) := by
  by_cases hfailed : ctx.v4.ec ≠ .ok ∧ ctx.v6.ec ≠ .ok
  · have hec : (dnsResolvedEc ctx).1 = ctx.v4.ec := by rw [dnsResolvedEc, if_pos hfailed]
    have hne : (dnsResolvedEc ctx).1 ≠ .ok := hec ▸ hfailed.1
    refine ⟨iff_of_true hne ?_, fun h => absurd h hne, fun h => absurd h hne, fun h => absurd h hne⟩
    rw [DnsOutcome.bothFailed_iff hv4 hv6, ← hv4ec, ← hv6ec]
    exact hfailed
  · have hok : ctx.v4.ec = .ok ∨ ctx.v6.ec = .ok := by tauto
    rw [dnsResolvedEc_eq ctx hok, hv4ips, hv6ips]
    refine ⟨iff_of_false (fun h => h rfl) ?_, fun _ => rfl, fun _ hpos hnil => ?_,
      fun _ hsize port => ?_⟩
    · rw [DnsOutcome.bothFailed_iff hv4 hv6, ← hv4ec, ← hv6ec]
      exact hfailed
    · have hlen := congrArg List.length hnil
      rw [List.length_take, Alternation.length_alternate, List.length_nil] at hlen
      rcases hok with hok | hok
      · have hfound := DnsOutcome.ips_ne_nil hv4 (hv4ec ▸ hok)
        omega
      · have hfound := DnsOutcome.ips_ne_nil hv6 (hv6ec ▸ hok)
        omega
    · rw [dnsResolvedEndpoints_eq]
      refine ⟨rfl, rfl, fun w hw => ?_⟩
      have hlt := List.mem_range.mp (List.of_mem_zip hw).1
      rw [List.length_take, hsize] at hlt
      exact Nat.lt_of_lt_of_le hlt (Nat.min_le_left _ _)

/-! ### The two queries -/

def DnsProgress.Shown (q : DnsQuery) : DnsProgress → Prop
  | .idle => q.outstanding = 0 ∧ q.completionEvent = none
  | .asked => q.outstanding = 1 ∧ q.completionEvent = none ∧ q.ec = .operationInProgress
  | .answered outcome =>
    q.outstanding = 0 ∧ q.completionEvent = some outcome.ec ∧ q.ec = .operationInProgress ∧
      q.ips = outcome.ips ∧ outcome.valid = true ∧ outcome.ec ≠ .operationInProgress
  | .completed outcome => q.outstanding = 0 ∧ q.completionEvent = none ∧ q.ec = outcome.ec ∧
      q.ips = outcome.ips ∧ outcome.valid = true ∧ outcome.ec ≠ .operationInProgress

variable {q : DnsQuery}

theorem DnsProgress.Shown.start (h : q.outstanding = 0) (hevent : q.completionEvent = none) :
    DnsProgress.asked.Shown q.start :=
  ⟨congrArg (· + 1) h, hevent, rfl⟩

theorem DnsProgress.Shown.answer (h : DnsProgress.asked.Shown q) (hvalid : outcome.valid = true)
    (hcode : outcome.ec ≠ .operationInProgress) :
    (DnsProgress.answered outcome).Shown (q.answer outcome.ec outcome.ips) :=
  ⟨congrArg (· - 1) h.1, rfl, h.2.2, rfl, hvalid, hcode⟩

theorem DnsProgress.Shown.complete (h : (DnsProgress.answered outcome).Shown q) :
    (DnsProgress.completed outcome).Shown (q.complete outcome.ec) :=
  ⟨h.1, rfl, rfl, h.2.2.2.1, h.2.2.2.2.1, h.2.2.2.2.2⟩

theorem DnsProgress.Shown.inProgress {progress : DnsProgress} (h : progress.Shown q)
    (hidle : progress ≠ .idle)
    (hopen : ∀ outcome, progress ≠ .completed outcome) : q.ec = .operationInProgress := by
  cases progress with
  | idle => exact absurd rfl hidle
  | asked => exact h.2.2
  | answered outcome => exact h.2.2.1
  | completed outcome => exact absurd rfl (hopen outcome)

namespace DnsResolutions

variable {s s' : DnsResolutions}

structure Kept (s : DnsResolutions) : Prop where
  v4 : s.v4.Shown s.resolver.v4
  v6 : s.v6.Shown s.resolver.v6
  idle : s.v4 = .idle ↔ s.v6 = .idle
  resolved : s.resolver.resolvedCompletionEvent = none
  sound : s.Sound

theorem sound_of_v4_open (hopen : ∀ outcome, s.v4 ≠ .completed outcome) :
    s.Sound ↔ s.completions = [] := by
  unfold Sound
  split
  · next outcome _ h4 _ => exact absurd h4 (hopen outcome)
  · exact Iff.rfl

theorem sound_of_v6_open (hopen : ∀ outcome, s.v6 ≠ .completed outcome) :
    s.Sound ↔ s.completions = [] := by
  unfold Sound
  split
  · next _ outcome _ h6 => exact absurd h6 (hopen outcome)
  · exact Iff.rfl

theorem Kept.not_outstanding (h : s.Kept) (hnot : s.outstanding = false) :
    (s.resolver.v4.outstanding = 0 ∧ s.resolver.v4.completionEvent = none) ∧
      s.resolver.v6.outstanding = 0 ∧ s.resolver.v6.completionEvent = none := by
  have hsound := h.sound
  have h4 := h.v4
  have h6 := h.v6
  rcases Bool.and_eq_false_iff.mp hnot with hidle | hsome
  · have hidle4 : s.v4 = .idle := by simpa using hidle
    rw [hidle4] at h4
    rw [h.idle.mp hidle4] at h6
    exact ⟨h4, h6⟩
  · have hne : s.completions ≠ [] := by simpa using hsome
    unfold Sound at hsound
    split at hsound
    · next v4 v6 heq4 heq6 =>
      rw [heq4] at h4
      rw [heq6] at h6
      exact ⟨⟨h4.1, h4.2.1⟩, h6.1, h6.2.1⟩
    · exact absurd hsound hne

/-- The completion event of a query runs: with the other one it is the end of the resolution,
and without it nothing is resolved. -/
theorem Kept.collect {ctx : NcDnsMultiResolver} {v4 v6 : DnsProgress} (h4 : v4.Shown ctx.v4)
    (h6 : v6.Shown ctx.v6)
    (hidle4 : v4 ≠ .idle) (hidle6 : v6 ≠ .idle) (hresolved : ctx.resolvedCompletionEvent = none) :
    (DnsResolutions.collect ⟨dnsResolved ctx, v4, v6, []⟩).Kept := by
  by_cases hopen : ctx.v4.ec = .operationInProgress ∨ ctx.v6.ec = .operationInProgress
  · have hsame : dnsResolved ctx = ctx := by rw [dnsResolved, if_pos hopen]
    rw [hsame, DnsResolutions.collect, hresolved]
    refine ⟨h4, h6, iff_of_false hidle4 hidle6, hresolved, ?_⟩
    rcases hopen with hopen | hopen
    · refine (sound_of_v4_open fun outcome heq => ?_).mpr rfl
      dsimp only at heq
      rw [heq] at h4
      exact h4.2.2.2.2.2 (h4.2.2.1.symm.trans hopen)
    · refine (sound_of_v6_open fun outcome heq => ?_).mpr rfl
      dsimp only at heq
      rw [heq] at h6
      exact h6.2.2.2.2.2 (h6.2.2.1.symm.trans hopen)
  · obtain ⟨hne4, hne6⟩ := not_or.mp hopen
    obtain ⟨o4, rfl⟩ : ∃ outcome, v4 = .completed outcome := by
      by_contra hnot
      exact hne4 (h4.inProgress hidle4 fun outcome heq => hnot ⟨outcome, heq⟩)
    obtain ⟨o6, rfl⟩ : ∃ outcome, v6 = .completed outcome := by
      by_contra hnot
      exact hne6 (h6.inProgress hidle6 fun outcome heq => hnot ⟨outcome, heq⟩)
    have ⟨_, _, hec4, hips4, hvalid4, _⟩ := h4
    have ⟨_, _, hec6, hips6, hvalid6, _⟩ := h6
    have hcompletes : DnsCompletes ctx.ipsSize o4 o6
        ((dnsResolvedEc ctx).1, (dnsResolvedEc ctx).2.ips) :=
      dnsCompletes_dnsResolvedEc hvalid4 hvalid6 hec4 hec6 hips4 hips6
    have heq : dnsResolved ctx =
        { (dnsResolvedEc ctx).2 with resolvedCompletionEvent := some (dnsResolvedEc ctx).1 } := by
      rw [dnsResolved, if_neg hopen]
    have hframe : (dnsResolvedEc ctx).2 = { ctx with ips := (dnsResolvedEc ctx).2.ips } := by
      unfold dnsResolvedEc
      split_ifs <;> rfl
    rw [heq, hframe, DnsResolutions.collect]
    exact ⟨h4, h6, iff_of_false hidle4 hidle6, rfl, _, rfl, hcompletes⟩

theorem Kept.step (h : s.Kept) {e : DnsResolutionEvent} (hcode : e.failsInProgress = false)
    (hs : s.step e = some s') : s'.Kept := by
  cases e with
  | resolve ipsSize =>
    obtain ⟨hnot, rfl⟩ := Machine.of_guard_not hs
    obtain ⟨h4, h6⟩ := h.not_outstanding (Bool.of_not_eq_true hnot)
    exact ⟨.start h4.1 h4.2, .start h6.1 h6.2,
      iff_of_false (fun heq => (by cases heq)) fun heq => (by cases heq), h.resolved, rfl⟩
  | answer family outcome =>
    obtain ⟨⟨hvalid, hasked⟩, hs⟩ := Option.ite_none_right_eq_some.mp hs
    obtain ⟨ctx, hctx, rfl⟩ := Option.map_eq_some_iff.mp hs
    have hne : outcome.ec ≠ .operationInProgress := by
      intro heq
      cases outcome with
      | failed ec =>
        have hec : ec = .operationInProgress := heq
        exact of_decide_eq_false hcode (hec ▸ rfl)
      | found ips => cases heq
    cases family with
    | v4 =>
      obtain ⟨-, rfl⟩ := Machine.of_guard hctx
      have hasked : s.v4 = .asked := hasked
      have h4 := h.v4
      have hidle := h.idle
      rw [hasked] at h4 hidle
      have hopen : s.completions = [] :=
        (sound_of_v4_open fun outcome heq => (by rw [hasked] at heq; cases heq)).mp h.sound
      refine ⟨h4.answer hvalid hne, h.v6, ?_, h.resolved, ?_⟩
      · exact iff_of_false (fun heq => (by cases heq)) fun heq => (by cases hidle.mpr heq)
      · exact (sound_of_v4_open fun outcome heq => (by cases heq)).mpr hopen
    | v6 =>
      obtain ⟨-, rfl⟩ := Machine.of_guard hctx
      have hasked : s.v6 = .asked := hasked
      have h6 := h.v6
      have hidle := h.idle
      rw [hasked] at h6 hidle
      have hopen : s.completions = [] :=
        (sound_of_v6_open fun outcome heq => (by rw [hasked] at heq; cases heq)).mp h.sound
      refine ⟨h.v4, h6.answer hvalid hne, ?_, h.resolved, ?_⟩
      · exact iff_of_false (fun heq => (by cases hidle.mp heq)) fun heq => (by cases heq)
      · exact (sound_of_v6_open fun outcome heq => (by cases heq)).mpr hopen
  | completion family =>
    cases family with
    | v4 =>
      have h4 := h.v4
      have hidle := h.idle
      have hsound := h.sound
      cases hp : s.v4 <;> simp only [DnsResolutions.step, progress, hp, reduceCtorEq] at hs
      next outcome =>
      rw [hp] at h4 hidle
      obtain ⟨ctx, hctx, rfl⟩ := Option.map_eq_some_iff.mp hs
      simp only [completionEvent, dnsStep, h4.2.1, Option.map_some, Option.some.injEq] at hctx
      subst hctx
      have hopen : s.completions = [] :=
        (sound_of_v4_open fun outcome heq => (by rw [hp] at heq; cases heq)).mp hsound
      simp only [advance, hopen]
      exact Kept.collect h4.complete h.v6 (fun heq => (by cases heq))
        (fun heq => (by cases hidle.mpr heq)) h.resolved
    | v6 =>
      have h6 := h.v6
      have hidle := h.idle
      have hsound := h.sound
      cases hp : s.v6 <;> simp only [DnsResolutions.step, progress, hp, reduceCtorEq] at hs
      next outcome =>
      rw [hp] at h6 hidle
      obtain ⟨ctx, hctx, rfl⟩ := Option.map_eq_some_iff.mp hs
      simp only [completionEvent, dnsStep, h6.2.1, Option.map_some, Option.some.injEq] at hctx
      subst hctx
      have hopen : s.completions = [] :=
        (sound_of_v6_open fun outcome heq => (by rw [hp] at heq; cases heq)).mp hsound
      simp only [advance, hopen]
      exact Kept.collect h.v4 h6.complete (fun heq => (by cases hidle.mp heq))
        (fun heq => (by cases heq)) h.resolved

theorem kept_init : init.Kept := ⟨⟨rfl, rfl⟩, ⟨rfl, rfl⟩, Iff.rfl, rfl, rfl⟩

end DnsResolutions

/-- For all resolutions one after the other, all ways the two queries can end and both orders
in which they complete: the completion event is resolved once, after both, with an error
exactly if both have failed and otherwise with the alternation of the addresses. -/
theorem dnsResolutions_sound {run : List DnsResolutionEvent} {s : DnsResolutions}
    (hr : dnsResolutions.Run run s) (hcodes : ∀ e ∈ run, e.failsInProgress = false) : s.Sound := by
  refine (hr.invariant_of_takes DnsResolutions.Kept (fun _ e => e.failsInProgress = false)
    DnsResolutions.kept_init (fun t e t' h hcode hs => h.step hcode hs) fun t e ht => ?_).sound
  obtain ⟨pre, hpre, -⟩ := ht
  exact hcodes e (hpre.subset (List.mem_append_right _ List.mem_cons_self))

/-- Two resolutions. The second query of the first one completes first and more addresses
are found than there is room for; in the second one only IPv6 addresses are found. -/
theorem dnsResolutions_sound_two :
    ∃ run s, dnsResolutions.Run run s ∧ (∀ e ∈ run, e.failsInProgress = false) ∧
      s.completions = [(.ok, [.v6 [1]])] ∧ s.Sound := by
  have hr : dnsResolutions.Run
    [.resolve 4, .answer .v6 (.found [.v6 [1], .v6 [2], .v6 [3]]), .completion .v6,
      .answer .v4 (.found [.v4 [1], .v4 [2], .v4 [3], .v4 [4]]), .completion .v4, .resolve 4,
      .answer .v4 (.failed .unknown), .answer .v6 (.found [.v6 [1]]), .completion .v4,
        .completion .v6] _ :=
    Machine.run_of_exec rfl
  have hcodes : ∀ e ∈ [DnsResolutionEvent.resolve 4,
      .answer .v6 (.found [.v6 [1], .v6 [2], .v6 [3]]), .completion .v6,
      .answer .v4 (.found [.v4 [1], .v4 [2], .v4 [3], .v4 [4]]), .completion .v4, .resolve 4,
      .answer .v4 (.failed .unknown), .answer .v6 (.found [.v6 [1]]), .completion .v4,
      .completion .v6],
      e.failsInProgress = false := by decide
  exact ⟨_, _, hr, hcodes, by decide +kernel, dnsResolutions_sound hr hcodes⟩

/-- A query that ends with `NABTO_EC_OPERATION_IN_PROGRESS` is taken for one that is going
on: both queries have completed and the completion event is not resolved. And a user without
room for an address is told of success without one. -/
theorem dns_in_progress_not_completed :
    (∃ s, dnsResolutions.Run [.resolve 4, .answer .v4 (.failed .operationInProgress),
        .answer .v6 (.found [.v6 [1]]), .completion .v4, .completion .v6] s ∧
      s.v4 = .completed (.failed .operationInProgress) ∧ s.v6 = .completed (.found [.v6 [1]]) ∧
      s.completions = [] ∧ ¬ s.Sound) ∧
    ∃ s, dnsResolutions.Run
      [.resolve 0, .answer .v4 (.failed .unknown), .answer .v6 (.found [.v6 [1]]),
        .completion .v4, .completion .v6] s ∧ s.completions = [(.ok, [])] := by
  refine ⟨⟨_, Machine.run_of_exec rfl, by decide +kernel, by decide +kernel, by decide +kernel, ?_⟩,
    _, Machine.run_of_exec rfl, by decide +kernel⟩
  rintro ⟨c, hc, -⟩
  cases hc

end NabtoDevice
