import Mathlib.Data.List.Basic
import Mathlib.Data.List.Perm.Basic
import Mathlib.Tactic.Common

/-! A fold over a list of verdicts that freezes. Once the accumulator satisfies
`stop` nothing changes it. Until then every element that satisfies `take`
replaces it. When a single value is taken without stopping the fold, the result
depends on which values occur in the list and not on their order. -/

namespace Sticky

variable {α : Type*} (stop take : α → Prop) [DecidablePred stop] [DecidablePred take]

def step (acc e : α) : α := if stop acc then acc else if take e then e else acc

def fold (acc : α) (es : List α) : α := es.foldl (step stop take) acc

@[simp] theorem fold_nil (acc : α) : fold stop take acc [] = acc := rfl

@[simp] theorem fold_cons (acc e : α) (es : List α) :
    fold stop take acc (e :: es) = fold stop take (step stop take acc e) es := rfl

theorem fold_append (acc : α) (es es' : List α) :
    fold stop take acc (es ++ es') = fold stop take (fold stop take acc es) es' :=
  List.foldl_append

variable {stop take}

theorem step_of_stop {acc : α} (h : stop acc) (e : α) : step stop take acc e = acc := by
  simp [step, h]

theorem fold_of_stop {acc : α} (h : stop acc) (es : List α) : fold stop take acc es = acc := by
  induction es with
  | nil => rfl
  | cons e es ih => rw [fold_cons, step_of_stop h, ih]

theorem stop_step (htake : ∀ e, stop e → take e) (acc e : α) :
    stop (step stop take acc e) ↔ stop acc ∨ stop e := by
  unfold step
  split_ifs with hs ht
  · simp [hs]
  · simp [hs]
  · have hne : ¬ stop e := fun h => ht (htake e h)
    simp [hs, hne]

theorem stop_fold (htake : ∀ e, stop e → take e) (acc : α) (es : List α) :
    stop (fold stop take acc es) ↔ stop acc ∨ ∃ e ∈ es, stop e := by
  induction es generalizing acc with
  | nil => simp
  | cons e es ih => rw [fold_cons, ih, stop_step htake, or_assoc, List.exists_mem_cons_iff]

/-- The fold ends in `a`, the only value taken without stopping, exactly if
nothing stopped it and `a` was there to be taken. -/
theorem fold_eq_iff {a : α} (htake : ∀ e, stop e → take e) (ha : ¬ stop a) (hta : take a)
    (honly : ∀ e, take e → ¬ stop e → e = a) (acc : α) (es : List α) :
    fold stop take acc es = a ↔ ¬ stop acc ∧ (∀ e ∈ es, ¬ stop e) ∧ (acc = a ∨ a ∈ es) := by
  induction es generalizing acc with
  | nil =>
    simp only [fold_nil, List.not_mem_nil, false_implies, implies_true, or_false, true_and]
    exact ⟨fun h => ⟨h ▸ ha, h⟩, fun h => h.2⟩
  | cons e es ih =>
    rw [fold_cons, ih, stop_step htake, not_or, List.forall_mem_cons, List.mem_cons]
    by_cases hacc : stop acc
    · simp [hacc]
    by_cases he : stop e
    · simp [he]
    have hstep : step stop take acc e = a ↔ acc = a ∨ a = e := by
      unfold step
      split_ifs with ht
      · have := honly e ht he
        simp [this]
      · have hne : a ≠ e := fun h => ht (h ▸ hta)
        simp [hne]
    tauto

end Sticky
