import Mathlib.Data.List.Basic
import Mathlib.Logic.Relation
import Mathlib.Tactic.Common

/-! A growing collection that is uploaded as a whole. Every change raises a version, an upload
takes the version it was started with, and an upload that is acknowledged makes this version
the synchronized one. If one upload is in flight at a time, the synchronized version is the
current one only when the last acknowledged upload carried all items. -/

namespace VersionedUpload

variable {α : Type*}

structure State (α : Type*) where
  items : List α
  version : ℕ
  synced : ℕ
  /-- The version the last upload was started with. -/
  uploading : ℕ
  /-- What the upload in flight carries. -/
  inFlight : Option (List α)
  /-- What the last acknowledged upload carried. -/
  acked : Option (List α)

def State.empty : State α := ⟨[], 0, 0, 0, none, none⟩

variable {s s' : State α}

inductive Step [DecidableEq α] : State α → State α → Prop
  | add (s : State α) (a : α) : Step s
    { s with items := s.items.insert a, version := s.version + 1 }
  /-- The version is raised, but there is no room for the item. -/
  | bump (s : State α) : Step s { s with version := s.version + 1 }
  | start (s : State α) (h : s.inFlight = none) :
      Step s { s with uploading := s.version, inFlight := some s.items }
  | fail (s : State α) : Step s { s with inFlight := none }
  | ack (s : State α) {l : List α} (h : s.inFlight = some l) :
      Step s { s with synced := s.uploading, inFlight := none, acked := some l }

structure Consistent (s : State α) : Prop where
  synced_le : s.synced ≤ s.version
  uploading_le : ∀ l, s.inFlight = some l → s.uploading ≤ s.version
  carries : ∀ l, s.inFlight = some l → s.uploading = s.version → s.items ⊆ l
  acked : s.synced = s.version → ∀ a ∈ s.items, ∃ l, s.acked = some l ∧ a ∈ l

theorem consistent_empty : Consistent (State.empty : State α) :=
  ⟨Nat.le_refl _, fun _ h => (by cases h), fun _ h => (by cases h), fun _ _ h => (by cases h)⟩

/-- A raised version is neither the synchronized one nor that of the upload in flight. -/
theorem Consistent.raise (h : Consistent s) (items : List α) :
    Consistent { s with items := items, version := s.version + 1 } := by
  have hsynced := h.synced_le
  refine ⟨by simp only; omega, fun l hl => ?_, fun l hl heq => ?_, fun heq => ?_⟩
  · have := h.uploading_le l hl
    simp only
    omega
  · have := h.uploading_le l hl
    simp only at heq
    omega
  · simp only at heq
    omega

theorem Consistent.step [DecidableEq α] (h : Consistent s) (hs : Step s s') : Consistent s' := by
  cases hs with
  | add | bump => exact h.raise _
  | start hnone =>
    refine ⟨h.synced_le, fun _ _ => Nat.le_refl _, fun l hl _ => ?_, h.acked⟩
    cases hl
    exact List.Subset.refl _
  | fail => exact ⟨h.synced_le, fun _ hl => (by cases hl), fun _ hl => (by cases hl), h.acked⟩
  | @ack l hl =>
    refine ⟨h.uploading_le l hl, fun _ hl => (by cases hl), fun _ hl => (by cases hl), ?_⟩
    intro heq a ha
    exact ⟨l, rfl, h.carries l hl heq ha⟩

theorem Consistent.steps [DecidableEq α] (h : Consistent s) (hs : Relation.ReflTransGen Step s s') :
    Consistent s' := by
  induction hs with
  | refl => exact h
  | tail _ hs ih => exact ih.step hs

end VersionedUpload
