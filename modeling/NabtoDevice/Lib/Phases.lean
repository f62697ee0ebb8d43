import Mathlib.Data.List.Basic
import Mathlib.Data.List.Count
import Mathlib.Tactic.Common

/-! Numbered records that live through phases, some of which wait in queues. A record is
always the picture of its phase, and a number is queued once when its record waits and
otherwise not at all. -/

namespace Phases

variable {π ρ : Type*} {picture : π → ρ} {waiting : π → Bool}

/-- `queued` counts how often a number stands in the queues. -/
structure Tracks (picture : π → ρ) (waiting : π → Bool) (records : List ρ) (queued : ℕ → ℕ) :
    Prop where
  phase : ∀ i r, records[i]? = some r →
    ∃ p, picture p = r ∧ queued i = if waiting p then 1 else 0
  outside : ∀ i, records[i]? = none → queued i = 0

theorem Tracks.nil : Tracks picture waiting [] fun _ => 0 := by
  refine ⟨fun i r h => ?_, fun _ _ => rfl⟩
  simp at h

variable {records : List ρ} {queued : ℕ → ℕ} {i : ℕ}

/-- A queued number has a record that waits. -/
theorem Tracks.waits (h : Tracks picture waiting records queued) (hi : queued i ≠ 0) :
    ∃ p, records[i]? = some (picture p) ∧ waiting p = true ∧ queued i = 1 := by
  cases hr : records[i]? with
  | none => exact absurd (h.outside i hr) hi
  | some r =>
    obtain ⟨p, rfl, hq⟩ := h.phase i r hr
    cases hp : waiting p with
    | false => simp [hp] at hq; exact absurd hq hi
    | true => exact ⟨p, rfl, hp, by simpa [hp] using hq⟩

variable {f : ρ → ρ}

/-- A step of one record, from its phase `p` to a phase `p'`. -/
theorem Tracks.modify {queued' : ℕ → ℕ} (h : Tracks picture waiting records queued)
    (hother : ∀ j, j ≠ i → queued' j = queued j)
    (hi : ∀ p, records[i]? = some (picture p) → (queued i = if waiting p then 1 else 0) →
      ∃ p', picture p' = f (picture p) ∧ queued' i = if waiting p' then 1 else 0)
    (hout : records[i]? = none → queued' i = 0) :
    Tracks picture waiting (records.modify i f) queued' := by
  refine ⟨fun j r hr => ?_, fun j hj => ?_⟩
  · by_cases hji : j = i
    · subst hji
      rw [List.getElem?_modify_eq] at hr
      obtain ⟨r₀, hr₀, rfl⟩ := Option.map_eq_some_iff.mp hr
      obtain ⟨p, rfl, hp⟩ := h.phase j r₀ hr₀
      exact hi p hr₀ hp
    · rw [List.getElem?_modify_ne f records (Ne.symm hji)] at hr
      rw [hother j hji]
      exact h.phase j r hr
  · by_cases hji : j = i
    · subst hji
      rw [List.getElem?_modify_eq] at hj
      exact hout (Option.map_eq_none_iff.mp hj)
    · rw [List.getElem?_modify_ne f records (Ne.symm hji)] at hj
      rw [hother j hji]
      exact h.outside j hj

/-- A step that leaves the queues alone. -/
theorem Tracks.update (h : Tracks picture waiting records queued)
    (hi : ∀ p, records[i]? = some (picture p) →
      ∃ p', picture p' = f (picture p) ∧ waiting p' = waiting p) :
    Tracks picture waiting (records.modify i f) queued := by
  refine h.modify (fun _ _ => rfl) (fun p hr hq => ?_) (h.outside i)
  obtain ⟨p', hp', hw⟩ := hi p hr
  exact ⟨p', hp', hw ▸ hq⟩

/-- A new record gets the next number; it may be queued at once. -/
theorem Tracks.concat {queued' : ℕ → ℕ} (p : π) (h : Tracks picture waiting records queued)
    (hother : ∀ j, j ≠ records.length → queued' j = queued j)
    (hp : queued' records.length = if waiting p then 1 else 0) :
    Tracks picture waiting (records ++ [picture p]) queued' := by
  refine ⟨fun j r hr => ?_, fun j hj => ?_⟩
  · rcases Nat.lt_trichotomy j records.length with hlt | rfl | hgt
    · rw [List.getElem?_append_left hlt] at hr
      rw [hother j (by omega)]
      exact h.phase j r hr
    · rw [List.getElem?_concat_length] at hr
      cases hr
      exact ⟨p, rfl, hp⟩
    · rw [List.getElem?_eq_none (by simp; omega)] at hr
      cases hr
  · have hlen := List.getElem?_eq_none_iff.mp hj
    rw [List.length_append, List.length_singleton] at hlen
    rw [hother j (by omega)]
    exact h.outside j (List.getElem?_eq_none (by omega))

section

variable {records : List ρ} {queued queued' : ℕ → ℕ}

/-- A record that does not wait is new. -/
theorem Tracks.create (h : Tracks picture waiting records queued) (p : π)
    (hp : waiting p = false) : Tracks picture waiting (records ++ [picture p]) queued := by
  refine h.concat p (fun _ _ => rfl) ?_
  rw [h.outside _ (List.getElem?_eq_none (Nat.le_refl _)), hp]
  rfl

/-- A new record joins a queue. -/
theorem Tracks.create_waiting (h : Tracks picture waiting records queued) (p : π)
    (hp : waiting p = true)
    (hq : ∀ j, queued' j = queued j + if j = records.length then 1 else 0) :
    Tracks picture waiting (records ++ [picture p]) queued' := by
  refine h.concat p (fun j hj => ?_) ?_
  · rw [hq, if_neg hj, Nat.add_zero]
  · rw [hq, h.outside _ (List.getElem?_eq_none (Nat.le_refl _))]
    simp [hp]

/-- A record joins a queue. -/
theorem Tracks.push (h : Tracks picture waiting records queued)
    (hq : ∀ j, queued' j = queued j + if j = i then 1 else 0) (hsome : records[i]? ≠ none)
    (hi : ∀ p, records[i]? = some (picture p) →
      waiting p = false ∧ ∃ p', picture p' = f (picture p) ∧ waiting p' = true) :
    Tracks picture waiting (records.modify i f) queued' := by
  refine h.modify (fun j hj => ?_) (fun p hr hqi => ?_) (fun hnone => absurd hnone hsome)
  · rw [hq, if_neg hj, Nat.add_zero]
  · obtain ⟨hp, p', hp', hw⟩ := hi p hr
    refine ⟨p', hp', ?_⟩
    rw [hq, hqi]
    simp [hp, hw]

/-- A record leaves a queue. -/
theorem Tracks.pop (h : Tracks picture waiting records queued)
    (hq : ∀ j, queued j = queued' j + if j = i then 1 else 0)
    (hi : ∀ p, waiting p = true → ∃ p', picture p' = f (picture p) ∧ waiting p' = false) :
    Tracks picture waiting (records.modify i f) queued' := by
  have hone : queued i = queued' i + 1 := by simpa using hq i
  refine h.modify (fun j hj => ?_) (fun p _ hqi => ?_) (fun hnone => ?_)
  · rw [hq, if_neg hj, Nat.add_zero]
  · cases hp : waiting p with
    | false => simp [hp] at hqi; omega
    | true =>
      obtain ⟨p', hp', hw⟩ := hi p hp
      refine ⟨p', hp', ?_⟩
      simp only [hp, if_true] at hqi
      simp only [hw]
      have : queued' i = 0 := by omega
      simpa using this
  · have := h.outside i hnone
    omega

end

/-- How a queue counts when a number is put at its end. -/
theorem count_concat (queue : List ℕ) (i j : ℕ) :
    (queue ++ [i]).count j = queue.count j + if j = i then 1 else 0 := by
  rw [List.count_append, List.count_singleton]
  simp only [beq_iff_eq, eq_comm (a := i)]

theorem count_cons (queue : List ℕ) (i j : ℕ) :
    (i :: queue).count j = queue.count j + if j = i then 1 else 0 := by
  rw [List.count_cons]
  simp only [beq_iff_eq, eq_comm (a := i)]

end Phases
