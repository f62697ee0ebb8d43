import Mathlib.Data.List.Basic
import Mathlib.Data.List.Nodup
import Mathlib.Data.List.Pairwise
import Mathlib.Tactic.Common

/-! A first-in first-out queue that numbers the calls made to it. A call is accepted
into the queue or refused, and what leaves the queue leaves it at the front with a
result. `Fair` says that the results were given in the order of the calls, one for each
call that is not waiting any more and none for a refused one. -/

/-- An item together with the number of the call that brought it. -/
structure Ticket (α : Type*) where
  item : α
  number : ℕ
  deriving DecidableEq, Repr

structure TicketQueue (α ρ : Type*) where
  waiting : List (Ticket α)
  /-- Calls made so far. -/
  issued : ℕ
  accepted : List ℕ
  refused : List ℕ
  served : List (ℕ × ρ)
  deriving DecidableEq, Repr

namespace TicketQueue

variable {α ρ : Type*} {q : TicketQueue α ρ}

def empty : TicketQueue α ρ := ⟨[], 0, [], [], []⟩

def accept (q : TicketQueue α ρ) (a : α) : TicketQueue α ρ :=
  { q with
    waiting := q.waiting ++ [⟨a, q.issued⟩]
    issued := q.issued + 1
    accepted := q.accepted ++ [q.issued] }

def refuse (q : TicketQueue α ρ) : TicketQueue α ρ :=
  { q with issued := q.issued + 1, refused := q.refused ++ [q.issued] }

/-- The front of the queue, `t` with `rest` behind it, leaves with the result `r`. -/
def serve (q : TicketQueue α ρ) (t : Ticket α) (rest : List (Ticket α)) (r : ρ) : TicketQueue α ρ :=
  { q with waiting := rest, served := q.served ++ [(t.number, r)] }

/-- The numbers of the calls that have got their result. -/
def done (q : TicketQueue α ρ) : List ℕ := q.served.map Prod.fst

def numbers (q : TicketQueue α ρ) : List ℕ := q.waiting.map Ticket.number

structure Fair (q : TicketQueue α ρ) : Prop where
  order : q.accepted = q.done ++ q.numbers
  sorted : q.accepted.Pairwise (· < ·)
  issued : ∀ n ∈ q.accepted, n < q.issued
  refused : ∀ n ∈ q.refused, n < q.issued ∧ n ∉ q.accepted

theorem fair_empty : (empty : TicketQueue α ρ).Fair :=
  ⟨rfl, List.Pairwise.nil, by simp [empty], by simp [empty]⟩

theorem Fair.accept (h : q.Fair) (a : α) : (q.accept a).Fair where
  order := by simp [TicketQueue.accept, done, numbers, h.order]
  sorted := by
    refine List.pairwise_append.mpr ⟨h.sorted, List.pairwise_singleton _ _, fun n hn m hm => ?_⟩
    rw [List.mem_singleton.mp hm]
    exact h.issued n hn
  issued n hn := by
    rcases List.mem_append.mp hn with hn | hn
    · exact Nat.lt_succ_of_lt (h.issued n hn)
    · rw [List.mem_singleton.mp hn]
      exact Nat.lt_succ_self _
  refused n hn := by
    obtain ⟨hlt, hnot⟩ := h.refused n hn
    refine ⟨Nat.lt_succ_of_lt hlt, fun hmem => ?_⟩
    rcases List.mem_append.mp hmem with hmem | hmem
    · exact hnot hmem
    · exact absurd (List.mem_singleton.mp hmem) (Nat.ne_of_lt hlt)

theorem Fair.refuse (h : q.Fair) : q.refuse.Fair where
  order := h.order
  sorted := h.sorted
  issued n hn := Nat.lt_succ_of_lt (h.issued n hn)
  refused n hn := by
    rcases List.mem_append.mp hn with hn | hn
    · exact ⟨Nat.lt_succ_of_lt (h.refused n hn).1, (h.refused n hn).2⟩
    · rw [List.mem_singleton.mp hn]
      exact ⟨Nat.lt_succ_self _, fun hmem => absurd (h.issued _ hmem) (Nat.lt_irrefl _)⟩

@[simp] theorem done_serve (t : Ticket α) (rest : List (Ticket α)) (r : ρ) :
    (q.serve t rest r).done = q.done ++ [t.number] := by simp [serve, done]

theorem Fair.serve (h : q.Fair) {t : Ticket α} {rest : List (Ticket α)} (hq : q.waiting = t :: rest)
    (r : ρ) : (q.serve t rest r).Fair where
  order := by
    have horder := h.order
    rw [numbers, hq] at horder
    simpa [TicketQueue.serve, done, numbers] using horder
  sorted := h.sorted
  issued := h.issued
  refused := h.refused

/-- No call gets a second result. -/
theorem Fair.done_nodup (h : q.Fair) : q.done.Nodup := by
  have hnodup : q.accepted.Nodup := h.sorted.imp fun hlt => Nat.ne_of_lt hlt
  rw [h.order] at hnodup
  exact hnodup.of_append_left

theorem Fair.done_sublist (h : q.Fair) : q.done.Sublist q.accepted := by
  rw [h.order]
  exact List.sublist_append_left _ _

variable {n : ℕ}

theorem Fair.refused_not_done (h : q.Fair) (hn : n ∈ q.refused) : n ∉ q.done :=
  fun hd => (h.refused n hn).2 (h.done_sublist.subset hd)

/-- An accepted call has its result or waits, and not both. -/
theorem Fair.done_iff (h : q.Fair) (hn : n ∈ q.accepted) : n ∈ q.done ↔ n ∉ q.numbers := by
  have hnodup : q.accepted.Nodup := h.sorted.imp fun hlt => Nat.ne_of_lt hlt
  rw [h.order] at hnodup hn
  refine ⟨fun hd hw => (List.disjoint_of_nodup_append hnodup) hd hw, fun hw => ?_⟩
  exact (List.mem_append.mp hn).resolve_right hw

/-- With nothing waiting every accepted call has exactly one result. -/
theorem Fair.count_done (h : q.Fair) (hq : q.waiting = []) (hn : n ∈ q.accepted) :
    q.done.count n = 1 := by
  have hmem : n ∈ q.done := (h.done_iff hn).mpr (by simp [numbers, hq])
  exact List.count_eq_one_of_mem h.done_nodup hmem

/-- A step of a queue and of the list of the calls whose items were handed on. An item is
handed on when it leaves the queue, if at all. -/
inductive Moves (q : TicketQueue α ρ) (handed : List ℕ) : TicketQueue α ρ → List ℕ → Prop
  | same : Moves q handed q handed
  | accept (a : α) : Moves q handed (q.accept a) handed
  | refuse : Moves q handed q.refuse handed
  | drop {t : Ticket α} {rest : List (Ticket α)} (hq : q.waiting = t :: rest) (r : ρ) :
      Moves q handed (q.serve t rest r) handed
  | hand {t : Ticket α} {rest : List (Ticket α)} (hq : q.waiting = t :: rest) (r : ρ) :
      Moves q handed (q.serve t rest r) (handed ++ [t.number])

/-- The calls were handed on in the order in which they got their results. -/
structure Orderly (q : TicketQueue α ρ) (handed : List ℕ) : Prop where
  fair : q.Fair
  handed : handed.Sublist q.done

theorem orderly_empty : (empty : TicketQueue α ρ).Orderly [] := ⟨fair_empty, List.Sublist.refl _⟩

variable {handed : List ℕ}

theorem Moves.orderly {q' : TicketQueue α ρ} {handed' : List ℕ} (hm : q.Moves handed q' handed')
    (h : q.Orderly handed) : q'.Orderly handed' := by
  cases hm with
  | same => exact h
  | accept a => exact ⟨h.fair.accept a, h.handed⟩
  | refuse => exact ⟨h.fair.refuse, h.handed⟩
  | @drop t rest hq r =>
    refine ⟨h.fair.serve hq r, ?_⟩
    rw [done_serve]
    exact h.handed.trans (List.sublist_append_left _ _)
  | @hand t rest hq r =>
    refine ⟨h.fair.serve hq r, ?_⟩
    rw [done_serve]
    exact h.handed.append (List.Sublist.refl _)

/-- No call is handed on twice, and none before an earlier one. -/
theorem Orderly.handed_sorted (h : q.Orderly handed) : handed.Pairwise (· < ·) :=
  h.fair.sorted.sublist (h.handed.trans h.fair.done_sublist)

theorem Orderly.handed_accepted (h : q.Orderly handed) (hn : n ∈ handed) :
    n ∈ q.accepted := (h.handed.trans h.fair.done_sublist).subset hn

end TicketQueue
