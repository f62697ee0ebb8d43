import Mathlib.Data.Multiset.AddSub
import Mathlib.Data.Multiset.UnionInter

/-! Tokens that are registered once and may fire once. A system is read as the
multiset of its pending tokens and the multiset of those that fired; moving a
token from the first to the second keeps what is known, so a system whose tokens
are all different can fire none of them twice. -/

structure Oneshot (ι : Type*) where
  pending : Multiset ι
  fired : Multiset ι

namespace Oneshot

variable {ι : Type*} {a b c : Oneshot ι}

def known (a : Oneshot ι) : Multiset ι := a.pending + a.fired

/-- All tokens that are pending or fired are different. -/
def Once (a : Oneshot ι) : Prop := a.known.Nodup

/-- From `a` to `b` some pending tokens fire and nothing is registered. -/
structure Fires (a b : Oneshot ι) : Prop where
  known : b.known = a.known
  pending : b.pending ≤ a.pending

theorem Fires.refl (a : Oneshot ι) : Fires a a := ⟨rfl, le_rfl⟩

theorem Fires.trans (hab : Fires a b) (hbc : Fires b c) : Fires a c :=
  ⟨hbc.known.trans hab.known, hbc.pending.trans hab.pending⟩

theorem Fires.one {i : ι} {p f : Multiset ι} : Fires ⟨i ::ₘ p, f⟩ ⟨p, i ::ₘ f⟩ := by
  refine ⟨?_, Multiset.le_cons_self p i⟩
  show p + i ::ₘ f = i ::ₘ p + f
  rw [Multiset.add_cons, Multiset.cons_add]

theorem Once.fires (ha : a.Once) (h : Fires a b) : b.Once := by
  unfold Once
  rw [h.known]
  exact ha

theorem Once.register {i : ι} (ha : a.Once) (hi : i ∉ a.known) (hb : b.known = i ::ₘ a.known) :
    b.Once := by
  unfold Once
  rw [hb]
  exact Multiset.nodup_cons.mpr ⟨hi, ha⟩

theorem Once.fired_nodup (ha : a.Once) : a.fired.Nodup :=
  Multiset.nodup_of_le (Multiset.le_add_left _ _) ha

end Oneshot
