import Mathlib.Data.List.Basic
import Mathlib.Data.List.Infix
import Mathlib.Logic.Relation
import Mathlib.Tactic.Convert

/-! One direction of a relay with one buffer: data is received while nothing is held, what is
held is sent in pieces, and the sink is closed once nothing is held. If the relay fails it
drops what it holds and goes no further. -/

namespace Relay

inductive Phase
  | running
  | failed
  | closed
  deriving DecidableEq, Repr

/-- What was received and sent so far, and what is held in between. -/
@[ext] structure State (α : Type*) where
  received : List α
  held : List α
  sent : List α
  phase : Phase

variable {α : Type*} {r r' : State α}

inductive Step : State α → State α → Prop
  | receive {r : State α} (data : List α) (hphase : r.phase = .running) (hheld : r.held = []) :
      Step r { r with received := r.received ++ data, held := data }
  | send {r : State α} (n : ℕ) :
      Step r { r with held := r.held.drop n, sent := r.sent ++ r.held.take n }
  | fail {r : State α} (hphase : r.phase = .running) :
      Step r { r with held := [], phase := .failed }
  | close {r : State α} (hphase : r.phase = .running) (hheld : r.held = []) :
      Step r { r with phase := .closed }

/-- Nothing is lost, repeated or reordered; only a relay that failed may have dropped something. -/
structure Sound (r : State α) : Prop where
  kept : r.sent ++ r.held <+: r.received
  complete : r.phase ≠ .failed → r.sent ++ r.held = r.received
  closed : r.phase = .closed → r.held = []

theorem Sound.step (h : Sound r) (hs : Step r r') : Sound r' := by
  cases hs with
  | receive data hphase hheld =>
    have hall := h.complete (by simp [hphase])
    rw [hheld, List.append_nil] at hall
    refine ⟨by simp [hall], fun _ => by simp [hall], fun hclosed => ?_⟩
    simp [hphase] at hclosed
  | send n =>
    have hsame : r.sent ++ r.held.take n ++ r.held.drop n = r.sent ++ r.held := by
      rw [List.append_assoc, List.take_append_drop]
    refine ⟨hsame ▸ h.kept, fun hphase => hsame.trans (h.complete hphase), fun hclosed => ?_⟩
    simp [h.closed hclosed]
  | fail hphase =>
    refine ⟨?_, fun hne => absurd rfl hne, nofun⟩
    exact (List.append_nil r.sent).symm ▸ (List.prefix_append _ _).trans h.kept
  | close hphase hheld => exact ⟨h.kept, fun _ => h.complete (by simp [hphase]), fun _ => hheld⟩

/-- A step of the relay, or none. -/
abbrev Moves (r r' : State α) : Prop := Relation.ReflGen Step r r'

theorem Moves.of_eq (h : r' = r) : Moves r r' := h ▸ .refl

theorem Moves.receive (data : List α) (hphase : r.phase = .running) (hheld : r.held = [])
    (hphase' : r'.phase = .running) (hheld' : r'.held = data)
    (hreceived : r'.received = r.received ++ data) (hsent : r'.sent = r.sent) : Moves r r' := by
  refine .single ?_
  convert Step.receive data hphase hheld using 1
  exact State.ext hreceived hheld' hsent (hphase'.trans hphase.symm)

theorem Moves.send (n : ℕ) (hphase : r'.phase = r.phase) (hheld : r'.held = r.held.drop n)
    (hreceived : r'.received = r.received) (hsent : r'.sent = r.sent ++ r.held.take n) :
    Moves r r' := by
  refine .single ?_
  convert Step.send n using 1
  exact State.ext hreceived hheld hsent hphase

theorem Moves.fail (hphase : r.phase = .running) (hphase' : r'.phase = .failed)
    (hheld' : r'.held = [])
    (hreceived : r'.received = r.received) (hsent : r'.sent = r.sent) : Moves r r' := by
  refine .single ?_
  convert Step.fail hphase using 1
  exact State.ext hreceived hheld' hsent hphase'

theorem Moves.close (hphase : r.phase = .running) (hheld : r.held = [])
    (hphase' : r'.phase = .closed)
    (hheld' : r'.held = []) (hreceived : r'.received = r.received) (hsent : r'.sent = r.sent) :
    Moves r r' := by
  refine .single ?_
  convert Step.close hphase hheld using 1
  exact State.ext hreceived (hheld'.trans hheld.symm) hsent hphase'

theorem Sound.moves (h : Sound r) (hm : Moves r r') : Sound r' := by
  cases hm with
  | refl => exact h
  | single hs => exact h.step hs

theorem Sound.sent_prefix (h : Sound r) : r.sent <+: r.received :=
  (List.prefix_append _ _).trans h.kept

/-- Once the sink is closed everything received was sent. -/
theorem Sound.sent_eq (h : Sound r) (hclosed : r.phase = .closed) : r.sent = r.received := by
  have hall := h.complete (by simp [hclosed])
  rwa [h.closed hclosed, List.append_nil] at hall

end Relay
