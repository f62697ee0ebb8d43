import NabtoDevice.Lib.Machine

/-! Maps between machines. Where a map of states and a map of events agree with the
steps of two machines, the mapped events of a run are a run of the other machine. -/

namespace Machine

variable {σ ε τ δ : Type*} {M : Machine σ ε} {N : Machine τ δ}

theorem Run.step_of_snoc {evs : List ε} {e : ε} {s s' : σ} (h : M.Run evs s)
    (h' : M.Run (evs ++ [e]) s') : M.step s e = some s' := by
  have hexec := h'.exec_eq
  rw [exec_snoc, h.exec_eq] at hexec
  exact hexec

/-- The maps carry a run over exactly as far as they agree with each of its steps. -/
theorem Run.map_iff_takes (φ : σ → τ) (ψ : ε → δ) (G : σ → ε → Prop) (hinit : N.init = φ M.init)
    (hstep : ∀ s e s', M.step s e = some s' → (N.step (φ s) (ψ e) = some (φ s') ↔ G s e))
    {evs : List ε} {s : σ} (h : M.Run evs s) :
    (∀ pre t, pre <+: evs → M.Run pre t → N.Run (pre.map ψ) (φ t)) ↔
      ∀ t e, M.Takes evs t e → G t e := by
  constructor
  · intro hmap t e ht
    obtain ⟨t', hs⟩ := h.step_of_takes ht
    obtain ⟨pre, hpre, hr⟩ := ht
    have hbefore := hmap pre t ((List.prefix_append _ _).trans hpre) hr
    have hafter := hmap (pre ++ [e]) t' hpre (hr.snoc hs)
    rw [List.map_append] at hafter
    exact (hstep t e t' hs).mp (hbefore.step_of_snoc hafter)
  · intro hG pre t hpre hr
    induction hr with
    | nil => exact hinit ▸ Run.nil
    | @snoc pre t e t' hr hs ih =>
      have hmapped := ih ((List.prefix_append _ _).trans hpre)
      rw [List.map_append]
      exact hmapped.snoc ((hstep t e t' hs).mpr (hG t e ⟨pre, hpre, hr⟩))

end Machine
