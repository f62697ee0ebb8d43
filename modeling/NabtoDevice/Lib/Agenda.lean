import NabtoDevice.Lib.Stamp
import Mathlib.Data.List.Nodup
import Mathlib.Data.List.Pairwise
import Mathlib.Data.List.Sort
import Mathlib.Logic.Function.Basic
import Mathlib.Tactic.Common

/-! What a scheduler promises to its clients, without the lists it keeps. Each client waits
for at most one thing: its turn among those that asked to run at once, or a time. Asking for
a turn again while waiting changes nothing, and a new time takes the place of what was
asked before. `HeldBy` says that two lists hold an agenda. -/

inductive Appointment
  | turn (number : ℕ)
  | time (stamp : UInt32)
  deriving DecidableEq, Repr

def Appointment.number? : Appointment → Option ℕ
  | .turn number => some number
  | .time _ => none

structure Agenda (α : Type*) where
  pending : α → Option Appointment
  /-- Turns given so far. -/
  issued : ℕ

namespace Agenda

variable {α : Type*} {m : Agenda α} {turns times times' : List α} {a b : α}

def empty : Agenda α := ⟨fun _ => none, 0⟩

/-- The turn of `a` comes before all others that are pending. -/
def IsNext (m : Agenda α) (a : α) : Prop :=
  ∃ n, m.pending a = some (.turn n) ∧ ∀ b k, b ≠ a → m.pending b = some (.turn k) → n < k

/-- The turn of `a`, if it waits for one, comes before that of `b`. -/
def Before (m : Agenda α) (a b : α) : Prop :=
  ∀ n k, m.pending a = some (.turn n) → m.pending b = some (.turn k) → n < k

variable {stamp : UInt32}

section Operations

variable [DecidableEq α]

def drop (m : Agenda α) (a : α) : Agenda α := { m with pending := Function.update m.pending a none }

def giveTurn (m : Agenda α) (a : α) : Agenda α :=
  { pending := Function.update m.pending a (some (.turn m.issued)), issued := m.issued + 1 }

/-- The client asks to run at once. -/
def post (m : Agenda α) (a : α) : Agenda α := if (m.pending a).isSome then m else m.giveTurn a

def postTimed (m : Agenda α) (a : α) (stamp : UInt32) : Agenda α :=
  { m with pending := Function.update m.pending a (some (.time stamp)) }

@[simp] theorem drop_pending_self : (m.drop a).pending a = none := Function.update_self ..

theorem drop_pending_of_ne (h : b ≠ a) : (m.drop a).pending b = m.pending b :=
  Function.update_of_ne h ..

@[simp] theorem giveTurn_pending_self : (m.giveTurn a).pending a = some (.turn m.issued) :=
  Function.update_self ..

theorem giveTurn_pending_of_ne (h : b ≠ a) : (m.giveTurn a).pending b = m.pending b :=
  Function.update_of_ne h ..

@[simp] theorem postTimed_pending_self :
    (m.postTimed a stamp).pending a = some (.time stamp) := Function.update_self ..

theorem postTimed_pending_of_ne (h : b ≠ a) :
    (m.postTimed a stamp).pending b = m.pending b := Function.update_of_ne h ..

theorem pending_of_drop {x : Appointment} (h : (m.drop a).pending b = some x) :
    b ≠ a ∧ m.pending b = some x := by
  have hne : b ≠ a := by
    rintro rfl
    simp at h
  exact ⟨hne, drop_pending_of_ne hne ▸ h⟩

theorem turn_of_post {k : ℕ} (h : (m.post a).pending b = some (.turn k)) :
    m.pending b = some (.turn k) ∨ k = m.issued := by
  unfold post at h
  split_ifs at h
  · exact Or.inl h
  · by_cases hne : b = a
    · rw [hne, giveTurn_pending_self] at h
      exact Or.inr (by simpa using h.symm)
    · exact Or.inl (giveTurn_pending_of_ne hne ▸ h)

theorem time_of_post (h : (m.post a).pending b = some (.time stamp)) :
    m.pending b = some (.time stamp) := by
  unfold post at h
  split_ifs at h
  · exact h
  · have hne : b ≠ a := by
      rintro rfl
      simp at h
    exact giveTurn_pending_of_ne hne ▸ h

theorem issued_le_post : m.issued ≤ (m.post a).issued := by
  unfold post
  split_ifs
  · exact le_rfl
  · exact Nat.le_succ _

theorem turn_of_postTimed {k : ℕ} (h : (m.postTimed a stamp).pending b = some (.turn k)) :
    m.pending b = some (.turn k) := by
  have hne : b ≠ a := by
    rintro rfl
    simp at h
  exact postTimed_pending_of_ne hne ▸ h

theorem time_of_postTimed {later : UInt32}
    (h : (m.postTimed a stamp).pending b = some (.time later)) :
    b = a ∧ later = stamp ∨ b ≠ a ∧ m.pending b = some (.time later) := by
  by_cases hne : b = a
  · rw [hne, postTimed_pending_self] at h
    exact Or.inl ⟨hne, by simpa using h.symm⟩
  · exact Or.inr ⟨hne, postTimed_pending_of_ne hne ▸ h⟩

theorem postTimed_drop (stamp : UInt32) : (m.drop a).postTimed a stamp = m.postTimed a stamp := by
  simp [postTimed, drop]

end Operations

/-- One list has the clients that wait for their turn, in that order, and the other one
those that wait for a time. -/
structure HeldBy (m : Agenda α) (turns times : List α) : Prop where
  nodup : (turns ++ times).Nodup
  mem_turns : ∀ a, a ∈ turns ↔ ∃ n, m.pending a = some (.turn n)
  mem_times : ∀ a, a ∈ times ↔ ∃ stamp, m.pending a = some (.time stamp)
  order : turns.Pairwise m.Before
  issued : ∀ a n, m.pending a = some (.turn n) → n < m.issued

theorem heldBy_empty : (empty : Agenda α).HeldBy [] [] :=
  ⟨List.nodup_nil, by simp [empty], by simp [empty], List.Pairwise.nil, by simp [empty]⟩

theorem HeldBy.pending_eq_none_iff (h : m.HeldBy turns times) :
    m.pending a = none ↔ a ∉ turns ∧ a ∉ times := by
  rw [h.mem_turns, h.mem_times]
  cases hpending : m.pending a with
  | none => simp
  | some appointment => cases appointment <;> simp

/-- A client at the front of its list has the next turn. -/
theorem HeldBy.isNext_iff (h : m.HeldBy turns times) : turns.head? = some a ↔ m.IsNext a := by
  constructor
  · intro hhead
    obtain ⟨rest, rfl⟩ := List.head?_eq_some_iff.mp hhead
    obtain ⟨n, hn⟩ := (h.mem_turns a).mp List.mem_cons_self
    refine ⟨n, hn, fun b k hne hk => ?_⟩
    have hb := (List.mem_cons.mp ((h.mem_turns b).mpr ⟨k, hk⟩)).resolve_left hne
    exact (List.pairwise_cons.mp h.order).1 b hb n k hn hk
  · rintro ⟨n, hn, hleast⟩
    have hmem := (h.mem_turns a).mpr ⟨n, hn⟩
    cases turns with
    | nil => cases hmem
    | cons first rest =>
      by_cases hne : first = a
      · rw [hne]
        rfl
      · -- the first of the list would come before `a` and after it
        have hmem := (List.mem_cons.mp hmem).resolve_left (Ne.symm hne)
        obtain ⟨k, hk⟩ := (h.mem_turns first).mp List.mem_cons_self
        have hlt := (List.pairwise_cons.mp h.order).1 a hmem k n hk hn
        exact absurd (hleast first k hne hk) hlt.asymm

variable [DecidableEq α]

theorem HeldBy.drop (h : m.HeldBy turns times) (a : α) :
    (m.drop a).HeldBy (turns.erase a) (times.erase a) := by
  obtain ⟨hturns, htimes, -⟩ := List.nodup_append.mp h.nodup
  have hsub : (turns.erase a ++ times.erase a).Sublist (turns ++ times) :=
    (List.erase_sublist ..).append (List.erase_sublist ..)
  refine ⟨h.nodup.sublist hsub, fun b => ?_, fun b => ?_, ?_,
    fun b n hb => h.issued b n (pending_of_drop hb).2⟩
  · rw [hturns.mem_erase_iff, h.mem_turns]
    exact ⟨fun ⟨hne, n, hn⟩ => ⟨n, (drop_pending_of_ne hne).trans hn⟩,
      fun ⟨n, hn⟩ => ⟨(pending_of_drop hn).1, n, (pending_of_drop hn).2⟩⟩
  · rw [htimes.mem_erase_iff, h.mem_times]
    exact ⟨fun ⟨hne, n, hn⟩ => ⟨n, (drop_pending_of_ne hne).trans hn⟩,
      fun ⟨n, hn⟩ => ⟨(pending_of_drop hn).1, n, (pending_of_drop hn).2⟩⟩
  · refine (h.order.sublist (List.erase_sublist ..)).imp fun hbefore n k hn hk => ?_
    exact hbefore n k (pending_of_drop hn).2 (pending_of_drop hk).2

/-- A new turn is the last one. -/
theorem HeldBy.giveTurn (h : m.HeldBy turns times) (hfree : m.pending a = none) :
    (m.giveTurn a).HeldBy (turns ++ [a]) times := by
  obtain ⟨hturn, htime⟩ := h.pending_eq_none_iff.mp hfree
  have hne {b : α} {x : Appointment} (hb : m.pending b = some x) : b ≠ a := by
    rintro rfl
    rw [hfree] at hb
    cases hb
  have hpending {b : α} (hb : b ≠ a) : (m.giveTurn a).pending b = m.pending b :=
    giveTurn_pending_of_ne hb
  refine ⟨?_, fun b => ?_, fun b => ?_, ?_, fun b n hb => ?_⟩
  · have hperm : (turns ++ [a] ++ times).Perm (a :: (turns ++ times)) := by
      rw [List.append_assoc]
      exact List.perm_middle
    refine hperm.nodup_iff.mpr (List.nodup_cons.mpr ⟨?_, h.nodup⟩)
    simp [hturn, htime]
  · by_cases hb : b = a
    · simp [hb]
    · rw [hpending hb, ← h.mem_turns]
      simp [hb]
  · by_cases hb : b = a
    · simp [hb, htime]
    · rw [hpending hb, h.mem_times]
  · refine List.pairwise_append.mpr ⟨?_, List.pairwise_singleton _ _, fun b hb c hc n k hn hk => ?_⟩
    · refine List.Pairwise.imp_of_mem (fun {b c} hb hc hbefore n k hn hk => ?_) h.order
      obtain ⟨_, hsomeb⟩ := (h.mem_turns b).mp hb
      obtain ⟨_, hsomec⟩ := (h.mem_turns c).mp hc
      exact hbefore n k (hpending (hne hsomeb) ▸ hn) (hpending (hne hsomec) ▸ hk)
    · rw [List.mem_singleton.mp hc, giveTurn_pending_self] at hk
      obtain rfl : m.issued = k := by simpa using hk
      obtain ⟨_, hsomeb⟩ := (h.mem_turns b).mp hb
      exact h.issued b n (hpending (hne hsomeb) ▸ hn)
  · by_cases hb' : b = a
    · rw [hb', giveTurn_pending_self] at hb
      obtain rfl : m.issued = n := by simpa using hb
      exact Nat.lt_succ_self _
    · exact Nat.lt_succ_of_lt (h.issued b n (hpending hb' ▸ hb))

/-- A client that waited for nothing is put somewhere among those that wait for a time. -/
theorem HeldBy.postTimed (h : m.HeldBy turns times) (hfree : m.pending a = none)
    (hperm : times'.Perm (a :: times)) (stamp : UInt32) :
    (m.postTimed a stamp).HeldBy turns times' := by
  obtain ⟨hturn, htime⟩ := h.pending_eq_none_iff.mp hfree
  have hpending {b : α} (hb : b ≠ a) : (m.postTimed a stamp).pending b = m.pending b :=
    postTimed_pending_of_ne hb
  refine ⟨?_, fun b => ?_, fun b => ?_, ?_, fun b n hb => h.issued b n (turn_of_postTimed hb)⟩
  · have hall : (turns ++ times').Perm (a :: (turns ++ times)) :=
      (hperm.append_left turns).trans List.perm_middle
    refine hall.nodup_iff.mpr (List.nodup_cons.mpr ⟨?_, h.nodup⟩)
    simp [hturn, htime]
  · by_cases hb : b = a
    · simp [hb, hturn]
    · rw [hpending hb, h.mem_turns]
  · rw [hperm.mem_iff]
    by_cases hb : b = a
    · simp [hb]
    · rw [hpending hb, ← h.mem_times]
      simp [hb]
  · exact h.order.imp fun hbefore n k hn hk =>
      hbefore n k (turn_of_postTimed hn) (turn_of_postTimed hk)

end Agenda
