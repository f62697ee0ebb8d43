import Mathlib.Data.List.Basic
import Mathlib.Data.List.Infix
import Mathlib.Tactic.Common

/-! Partial state machines and their runs. An event that cannot happen in a
state has step `none`, and a run is a list of events that all happen. `Visits`
and `Takes` name the states and the steps of a run, so that a property of all
states reached can be compared with a condition on the steps taken. -/

/-- An initial state and a step on events. -/
structure Machine (σ ε : Type*) where
  init : σ
  step : σ → ε → Option σ

namespace Machine

variable {σ ε : Type*} {M : Machine σ ε}

/-- A step behind a condition has happened. -/
theorem of_guard {p : Prop} [Decidable p] {s t : σ} (h : (if p then some s else none) = some t) :
    p ∧ s = t :=
  (Option.ite_none_right_eq_some.mp h).imp_right Option.some.inj

theorem of_guard_not {p : Prop} [Decidable p] {s t : σ}
    (h : (if p then none else some s) = some t) : ¬ p ∧ s = t :=
  (Option.ite_none_left_eq_some.mp h).imp_right Option.some.inj

/-- The run of `evs` ends in the state `s`. -/
inductive Run (M : Machine σ ε) : List ε → σ → Prop
  | nil : Run M [] M.init
  | snoc {evs : List ε} {s : σ} {e : ε} {s' : σ} :
      Run M evs s → M.step s e = some s' → Run M (evs ++ [e]) s'

def exec (M : Machine σ ε) (evs : List ε) : Option σ := evs.foldlM M.step M.init

/-- A state the run of `evs` passes through, its first and last ones included. -/
def Visits (M : Machine σ ε) (evs : List ε) (s : σ) : Prop := ∃ pre, pre <+: evs ∧ M.Run pre s

/-- A step of the run of `evs`: the event `e` happens in the state `s`. -/
def Takes (M : Machine σ ε) (evs : List ε) (s : σ) (e : ε) : Prop :=
  ∃ pre, pre ++ [e] <+: evs ∧ M.Run pre s

@[simp] theorem exec_nil : M.exec [] = some M.init := rfl

theorem exec_snoc (evs : List ε) (e : ε) :
    M.exec (evs ++ [e]) = (M.exec evs).bind fun s => M.step s e := by
  simp [exec, List.foldlM_append]

variable {evs : List ε} {s : σ}

theorem Run.exec_eq (h : M.Run evs s) : M.exec evs = some s := by
  induction h with
  | nil => rfl
  | snoc _ hs ih => rw [exec_snoc, ih]; exact hs

theorem run_of_exec (h : M.exec evs = some s) : M.Run evs s := by
  induction evs using List.reverseRecOn generalizing s with
  | nil => simp only [exec_nil, Option.some.injEq] at h; subst h; exact Run.nil
  | append_singleton evs e ih =>
    rw [exec_snoc] at h
    obtain ⟨t, ht, hs⟩ := Option.bind_eq_some_iff.mp h
    exact Run.snoc (ih ht) hs

/-- A run and a decidable property of its last state, both by evaluation. -/
theorem exists_run_of_exec {p : σ → Bool} (evs : List ε) (h : (M.exec evs).any p = true) :
    ∃ s, M.Run evs s ∧ p s = true := by
  cases hexec : M.exec evs with
  | none => simp [hexec] at h
  | some s => exact ⟨s, run_of_exec hexec, by simpa [hexec] using h⟩

variable {t : σ}

theorem Run.unique (hs : M.Run evs s) (ht : M.Run evs t) : s = t :=
  Option.some.inj (hs.exec_eq.symm.trans ht.exec_eq)

theorem Run.visits (h : M.Run evs s) : M.Visits evs s :=
  ⟨evs, List.prefix_refl _, h⟩

theorem Visits.snoc (e : ε) (h : M.Visits evs s) : M.Visits (evs ++ [e]) s := by
  obtain ⟨pre, hp, hr⟩ := h
  exact ⟨pre, hp.trans (List.prefix_append _ _), hr⟩

variable {e : ε}

theorem Takes.of_prefix {evs' : List ε} (hp : evs <+: evs') (h : M.Takes evs s e) :
    M.Takes evs' s e := by
  obtain ⟨pre, hpre, hr⟩ := h
  exact ⟨pre, hpre.trans hp, hr⟩

theorem Takes.snoc (e' : ε) (h : M.Takes evs s e) :
    M.Takes (evs ++ [e']) s e := h.of_prefix (List.prefix_append _ _)

theorem Takes.visits (h : M.Takes evs s e) : M.Visits evs s := by
  obtain ⟨pre, hp, hr⟩ := h
  exact ⟨pre, (List.prefix_append _ _).trans hp, hr⟩

theorem Takes.visits_step {s' : σ} (h : M.Takes evs s e) (hs : M.step s e = some s') :
    M.Visits evs s' := by
  obtain ⟨pre, hp, hr⟩ := h
  exact ⟨pre ++ [e], hp, hr.snoc hs⟩

theorem Run.takes_last (e : ε) (h : M.Run evs s) : M.Takes (evs ++ [e]) s e :=
  ⟨evs, List.prefix_refl _, h⟩

theorem visits_nil (h : M.Visits [] s) : s = M.init := by
  obtain ⟨pre, hp, hr⟩ := h
  rw [List.prefix_nil] at hp
  subst hp
  exact hr.unique Run.nil

theorem not_takes_nil : ¬ M.Takes [] s e := by
  rintro ⟨pre, hp, -⟩
  have := hp.length_le
  simp at this

theorem visits_snoc {s' : σ} (h : M.Run evs s) (hs : M.step s e = some s')
    (ht : M.Visits (evs ++ [e]) t) : M.Visits evs t ∨ t = s' := by
  obtain ⟨pre, hp, hr⟩ := ht
  rcases List.prefix_concat_iff.mp hp with rfl | hp
  · exact Or.inr (hr.unique (Run.snoc h hs))
  · exact Or.inl ⟨pre, hp, hr⟩

theorem takes_snoc {e' : ε} (h : M.Run evs s) (ht : M.Takes (evs ++ [e]) t e') :
    M.Takes evs t e' ∨ (t = s ∧ e' = e) := by
  obtain ⟨pre, hp, hr⟩ := ht
  rcases List.prefix_concat_iff.mp hp with heq | hp
  · obtain ⟨rfl, he⟩ := List.append_inj' heq rfl
    simp only [List.cons.injEq, and_true] at he
    exact Or.inr ⟨hr.unique h, he⟩
  · exact Or.inl ⟨pre, hp, hr⟩

/-- A step of a run is one of its first part or has an event of the second one. -/
theorem Takes.of_append {more : List ε} (h : M.Takes (evs ++ more) s e) :
    M.Takes evs s e ∨ e ∈ more := by
  induction more using List.reverseRecOn with
  | nil => exact Or.inl (List.append_nil evs ▸ h)
  | append_singleton more last ih =>
    obtain ⟨pre, hp, hr⟩ := h
    rw [← List.append_assoc] at hp
    rcases List.prefix_concat_iff.mp hp with heq | hp
    · obtain ⟨-, he⟩ := List.append_inj' heq rfl
      exact Or.inr (by simp_all)
    · exact (ih ⟨pre, hp, hr⟩).imp_right (List.mem_append_left _)

/-- All steps taken from `s` on meet a decidable condition. -/
def allTaken (M : Machine σ ε) (g : σ → ε → Bool) : σ → List ε → Bool
  | _, [] => true
  | s, e :: evs => g s e && ((M.step s e).elim true fun s' => M.allTaken g s' evs)

variable {g : σ → ε → Bool}

theorem allTaken_append {pre : List ε} (h : M.allTaken g s (pre ++ evs) = true)
    (hr : pre.foldlM M.step s = some t) : M.allTaken g t evs = true := by
  induction pre generalizing s with
  | nil =>
    simp only [List.foldlM_nil, Option.pure_def, Option.some.injEq] at hr
    exact hr ▸ h
  | cons e pre ih =>
    rw [List.foldlM_cons] at hr
    obtain ⟨s', hs, hr⟩ := Option.bind_eq_some_iff.mp hr
    rw [List.cons_append, allTaken, hs] at h
    exact ih (Bool.and_eq_true_iff.mp h).2 hr

theorem takes_of_allTaken (h : M.allTaken g M.init evs = true) (ht : M.Takes evs s e) :
    g s e = true := by
  obtain ⟨pre, ⟨post, rfl⟩, hr⟩ := ht
  rw [List.append_assoc] at h
  have := allTaken_append h hr.exec_eq
  exact (Bool.and_eq_true_iff.mp this).1

theorem takes_eq_false_of_allTaken (h : M.allTaken (fun s e => !g s e) M.init evs = true)
    (ht : M.Takes evs s e) : g s e = false := by
  simpa using takes_of_allTaken h ht

/-- All states visited meet a decidable condition. -/
theorem visits_of_inits {p : σ → Bool} (h : (evs.inits.all fun pre => (M.exec pre).all p) = true)
    (hv : M.Visits evs s) : p s = true := by
  obtain ⟨pre, hp, hr⟩ := hv
  have hpre := List.all_eq_true.mp h pre ((List.mem_inits pre evs).mpr hp)
  rwa [hr.exec_eq, Option.all_some] at hpre

/-- How many of the steps taken from `s` on meet a decidable condition. -/
def countTaken (M : Machine σ ε) (p : σ → ε → Bool) : σ → List ε → ℕ
  | _, [] => 0
  | s, e :: evs => (p s e).toNat + (M.step s e).elim 0 fun s' => M.countTaken p s' evs

theorem countTaken_append (p : σ → ε → Bool) {pre : List ε} (evs : List ε)
    (hr : pre.foldlM M.step s = some t) :
    M.countTaken p s (pre ++ evs) = M.countTaken p s pre + M.countTaken p t evs := by
  induction pre generalizing s with
  | nil =>
    simp only [List.foldlM_nil, Option.pure_def, Option.some.injEq] at hr
    rw [hr, List.nil_append, countTaken, Nat.zero_add]
  | cons e pre ih =>
    rw [List.foldlM_cons] at hr
    obtain ⟨s', hs, hr⟩ := Option.bind_eq_some_iff.mp hr
    rw [List.cons_append, countTaken, countTaken, hs, Option.elim_some, Option.elim_some, ih hr,
      Nat.add_assoc]

theorem Run.countTaken_snoc {s' : σ} (h : M.Run evs s) (p : σ → ε → Bool)
    (hs : M.step s e = some s') :
    M.countTaken p M.init (evs ++ [e]) = M.countTaken p M.init evs + (p s e).toNat := by
  rw [countTaken_append p [e] h.exec_eq, countTaken, hs, Option.elim_some, countTaken, Nat.add_zero]

variable (Inv : σ → Prop)

/-- What the first state has and every step keeps holds at the end of a run. -/
theorem Run.invariant (h0 : Inv M.init) (hstep : ∀ s e s', Inv s → M.step s e = some s' → Inv s')
    (h : M.Run evs s) : Inv s := by
  induction h with
  | nil => exact h0
  | snoc _ hs ih => exact hstep _ _ _ ih hs

/-- The same from a state on that a run has reached. -/
theorem Run.invariant_from (hstep : ∀ s e s', Inv s → M.step s e = some s' → Inv s') {more : List ε}
    (hs : M.Run evs s) (h0 : Inv s) (ht : M.Run (evs ++ more) t) : Inv t := by
  induction more using List.reverseRecOn generalizing t with
  | nil =>
    rw [List.append_nil] at ht
    exact hs.unique ht ▸ h0
  | append_singleton more e ih =>
    have hexec := ht.exec_eq
    rw [← List.append_assoc, exec_snoc] at hexec
    obtain ⟨u, hu, hstep'⟩ := Option.bind_eq_some_iff.mp hexec
    exact hstep u e t (ih (run_of_exec hu)) hstep'

/-- While the goal is not reached some allowed step lowers a measure, so that allowed steps
alone lead to it. -/
theorem Run.reaches (Goal : σ → Prop) (allowed : ε → Prop) (μ : σ → ℕ)
    (hstep : ∀ s, Inv s → ¬ Goal s → ∃ e s', allowed e ∧ M.step s e = some s' ∧ Inv s' ∧ μ s' < μ s)
    (h : M.Run evs s)
    (hs : Inv s) : ∃ more t, (∀ e ∈ more, allowed e) ∧ M.Run (evs ++ more) t ∧ Inv t ∧ Goal t := by
  induction hμ : μ s using Nat.strong_induction_on generalizing evs s with
  | _ n ih =>
    by_cases hgoal : Goal s
    · exact ⟨[], s, fun _ he => absurd he List.not_mem_nil, (List.append_nil evs).symm ▸ h,
        hs, hgoal⟩
    · obtain ⟨e, s', hallowed, hs', hinv, hlt⟩ := hstep s hs hgoal
      obtain ⟨more, t, hmore, hr, ht⟩ := ih (μ s') (hμ ▸ hlt) (h.snoc hs') hinv rfl
      refine ⟨e :: more, t, ?_, ?_, ht⟩
      · intro e' he'
        rcases List.mem_cons.mp he' with rfl | he'
        · exact hallowed
        · exact hmore e' he'
      · rwa [List.append_assoc, List.singleton_append] at hr

variable (G : σ → ε → Prop)

/-- What is kept by the steps that meet a condition `G` holds after runs of such steps. -/
theorem Run.invariant_of_takes (h0 : Inv M.init)
    (hstep : ∀ s e s', Inv s → G s e → M.step s e = some s' → Inv s')
    (h : M.Run evs s) (hG : ∀ t e, M.Takes evs t e → G t e) : Inv s := by
  induction h with
  | nil => exact h0
  | snoc hr hs ih =>
    have hprev := ih fun t e ht => hG t e (ht.snoc _)
    exact hstep _ _ _ hprev (hG _ _ (hr.takes_last _)) hs

theorem Visits.invariant_of_takes (h0 : Inv M.init)
    (hstep : ∀ s e s', Inv s → G s e → M.step s e = some s' → Inv s')
    (h : M.Visits evs s) (hG : ∀ t e, M.Takes evs t e → G t e) : Inv s := by
  obtain ⟨pre, hp, hr⟩ := h
  exact hr.invariant_of_takes Inv G h0 hstep fun t e ht => hG t e (ht.of_prefix hp)

/-- When a step from a good state ends in a good state exactly if it meets `G`, a
run stays in good states exactly if all its steps meet `G`. The invariant only has
to survive the steps that do. -/
theorem Run.good_iff_takes (Good : σ → Prop) (G : σ → ε → Prop) (hinit : Inv M.init)
    (hgood : Good M.init)
    (hstep : ∀ s e s', Inv s → Good s → M.step s e = some s' → (Good s' ↔ G s e) ∧ (G s e → Inv s'))
    (h : M.Run evs s) : (∀ t, M.Visits evs t → Good t) ↔ ∀ t e, M.Takes evs t e → G t e := by
  suffices hboth : ((∀ t, M.Visits evs t → Good t) ↔ ∀ t e, M.Takes evs t e → G t e) ∧
      ((∀ t, M.Visits evs t → Good t) → Inv s) from hboth.1
  induction h with
  | nil =>
    refine ⟨⟨fun _ t e ht => absurd ht not_takes_nil, fun _ t ht => ?_⟩, fun _ => hinit⟩
    rw [visits_nil ht]
    exact hgood
  | @snoc evs s e s' hr hs ih =>
    obtain ⟨ihiff, ihinv⟩ := ih
    have hlast (hg : ∀ t, M.Visits evs t → Good t) := hstep s e s' (ihinv hg) (hg s hr.visits) hs
    refine ⟨⟨fun hv => ?_, fun ht => ?_⟩, fun hv => ?_⟩
    · have hg : ∀ t, M.Visits evs t → Good t := fun t ht => hv t (ht.snoc e)
      intro t e' ht
      rcases takes_snoc hr ht with ht | ⟨rfl, rfl⟩
      · exact ihiff.mp hg t e' ht
      · exact (hlast hg).1.mp (hv s' (Run.snoc hr hs).visits)
    · have hg : ∀ t, M.Visits evs t → Good t := ihiff.mpr fun t e' h => ht t e' (h.snoc e)
      intro t hvt
      rcases visits_snoc hr hs hvt with hvt | rfl
      · exact hg t hvt
      · exact (hlast hg).1.mpr (ht s e (hr.takes_last e))
    · have hg : ∀ t, M.Visits evs t → Good t := fun t ht => hv t (ht.snoc e)
      exact (hlast hg).2 ((hlast hg).1.mp (hv s' (Run.snoc hr hs).visits))

theorem Run.step_of_takes (h : M.Run evs s) (ht : M.Takes evs t e) :
    ∃ t', M.step t e = some t' := by
  induction h with
  | nil => exact absurd ht not_takes_nil
  | snoc hr hs ih =>
    rcases takes_snoc hr ht with ht | ⟨rfl, rfl⟩
    · exact ih ht
    · exact ⟨_, hs⟩

/-- Safety that includes what is bound to follow: wherever the run stops it may go on with
`quiet` events, which cannot be prevented. When every step that does not meet `G` can be
followed by quiet ones that lead to a bad state, all steps have to meet `G`. -/
theorem Run.safe_iff_takes (quiet : ε → Bool) (Inv Good : σ → Prop) (G : σ → ε → Prop)
    (hinit : Inv M.init) (hgood : ∀ s, Inv s → Good s) (hquiet : ∀ s e, quiet e = true → G s e)
    (hstep : ∀ s e s', Inv s → G s e → M.step s e = some s' → Inv s')
    (hbad : ∀ s e s', Inv s → ¬ G s e → M.step s e = some s' →
      ∃ (more : List ε) (t : σ), more.all quiet = true ∧ more.foldlM M.step s' = some t ∧ ¬ Good t)
    (h : M.Run evs s) :
    (∀ pre more t, pre <+: evs → more.all quiet = true → M.Run (pre ++ more) t → Good t) ↔
      ∀ t e, M.Takes evs t e → G t e := by
  constructor
  · intro hsafe
    suffices hboth : (∀ t e, M.Takes evs t e → G t e) ∧ Inv s from hboth.1
    induction h with
    | nil => exact ⟨fun t e ht => absurd ht not_takes_nil, hinit⟩
    | @snoc evs s e s' hr hs ih =>
      obtain ⟨hprev, hinv⟩ :=
        ih fun pre more t hpre => hsafe pre more t (hpre.trans (List.prefix_append _ _))
      have hlast : G s e := by
        by_contra hG
        obtain ⟨more, t, hmore, hexec, ht⟩ := hbad s e s' hinv hG hs
        refine ht (hsafe (evs ++ [e]) more t (List.prefix_refl _) hmore (run_of_exec ?_))
        rw [exec, List.foldlM_append, ← exec, (hr.snoc hs).exec_eq]
        exact hexec
      refine ⟨fun t e' ht => ?_, hstep s e s' hinv hlast hs⟩
      rcases takes_snoc hr ht with ht | ⟨rfl, rfl⟩
      · exact hprev t e' ht
      · exact hlast
  · intro hG pre more t hpre hmore hr
    refine hgood t (hr.invariant_of_takes Inv G hinit hstep fun u e hu => ?_)
    rcases hu.of_append with hu | hu
    · exact hG u e (hu.of_prefix hpre)
    · exact hquiet u e (List.all_eq_true.mp hmore e hu)

/-- What `good_iff_takes` asks of the state a step ends in, for a condition that a Boolean
function decides. -/
def Judged (Inv Good : σ → Prop) (s : σ) (bad : Bool) : Prop :=
  (Good s ↔ bad = false) ∧ (bad = false → Inv s)

theorem Judged.fine {Inv Good : σ → Prop} (hgood : Good s) (hinv : Inv s) :
    Judged Inv Good s false :=
  ⟨iff_of_true hgood rfl, fun _ => hinv⟩

theorem Judged.bad {Inv Good : σ → Prop} (h : ¬ Good s) : Judged Inv Good s true :=
  ⟨iff_of_false h Bool.noConfusion, fun hbad => Bool.noConfusion hbad⟩

/-- The case of `good_iff_takes` for a step which keeps an invariant that the good states follow
from. -/
theorem good_iff_of_inv {Inv Good : σ → Prop} {bad : Bool} (hgood : Inv s → Good s)
    (hbad : bad = false) (hinv : Inv s) : (Good s ↔ bad = false) ∧ (bad = false → Inv s) :=
  ⟨⟨fun _ => hbad, fun _ => hgood hinv⟩, fun _ => hinv⟩

end Machine
