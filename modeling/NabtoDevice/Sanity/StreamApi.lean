import NabtoDevice.Spec.StreamApi
import NabtoDevice.Sanity.StreamManager

/-! Under what is assumed of the streaming library, no step of the core takes a stream
away from the holder it was handed to: `Carries` says so for one slot, and every
function that the stream manager runs on its slots carries. -/

namespace NabtoDevice

structure StreamLife.Holds (a : StreamLife) (k : ℕ) : Prop where
  active : a.active = true
  incarnation : a.incarnation = k
  kept : a.released = false

/-- A stream is handed over at most once, while it is in the slot, and released only
after it was offered. -/
structure StreamLife.Valid (a : StreamLife) : Prop where
  nodup : a.handedOver.Nodup
  past : ∀ k ∈ a.handedOver, k ≤ a.incarnation
  present : a.incarnation ∈ a.handedOver → a.active = true ∧ a.offered = true
  unoffered : a.active = true → a.offered = false → a.released = false

/-- Valid slots stay valid, and the streams that were or are handed over stay with
their holders. -/
structure Carries (a b : StreamLife) : Prop where
  valid : a.Valid → b.Valid
  handed : ∃ new, b.handedOver = a.handedOver ++ new ∧ (a.Valid → ∀ k ∈ new, b.Holds k)
  holds : a.Valid → ∀ k ∈ a.handedOver, a.Holds k → b.Holds k

theorem Carries.refl (a : StreamLife) : Carries a a :=
  ⟨id, ⟨[], by simp, by simp⟩, fun _ _ _ h => h⟩

variable {a : StreamLife}

theorem Carries.trans {b c : StreamLife} (hab : Carries a b) (hbc : Carries b c) : Carries a c := by
  obtain ⟨new₁, hnew₁, hholds₁⟩ := hab.handed
  obtain ⟨new₂, hnew₂, hholds₂⟩ := hbc.handed
  refine ⟨fun ha => hbc.valid (hab.valid ha), ⟨new₁ ++ new₂, ?_, fun ha k hk => ?_⟩,
    fun ha k hk h => ?_⟩
  · rw [hnew₂, hnew₁, List.append_assoc]
  · rcases List.mem_append.mp hk with hk | hk
    · have hmem : k ∈ b.handedOver := by
        rw [hnew₁]
        exact List.mem_append_right _ hk
      exact hbc.holds (hab.valid ha) k hmem (hholds₁ ha k hk)
    · exact hholds₂ (hab.valid ha) k hk
  · have hmem : k ∈ b.handedOver := by
      rw [hnew₁]
      exact List.mem_append_left _ hk
    exact hbc.holds (hab.valid ha) k hmem (hab.holds ha k hk h)

theorem Carries.of_life {a b : NcStreamContext} (h : b.life = a.life) : Carries a.life b.life :=
  h ▸ Carries.refl a.life

theorem handOver_carries (hactive : a.active = true) (hoffered : a.offered = false) :
    Carries a { a with offered := true, handedOver := a.handedOver ++ [a.incarnation] } := by
  refine ⟨fun h => ⟨?_, fun k hk => ?_, fun _ => ⟨hactive, rfl⟩, fun _ => nofun⟩,
    ⟨[a.incarnation], rfl, fun h k hk => ?_⟩, fun h k _ hk => ⟨hk.active, hk.incarnation, hk.kept⟩⟩
  · have hnew : a.incarnation ∉ a.handedOver := by
      intro hmem
      simpa [hoffered] using (h.present hmem).2
    simpa [List.nodup_append, h.nodup] using fun k hk => ne_of_mem_of_not_mem hk hnew
  · rcases List.mem_append.mp hk with hk | hk
    · exact h.past k hk
    · exact (List.mem_singleton.mp hk).le
  · rw [List.mem_singleton.mp hk]
    exact ⟨hactive, rfl, h.unoffered hactive hoffered⟩

theorem refuse_carries (hoffered : a.offered = false) :
    Carries a { a with offered := true, released := true } := by
  have hnew (h : a.Valid) : a.incarnation ∉ a.handedOver := by
    intro hmem
    simpa [hoffered] using (h.present hmem).2
  refine ⟨fun h => ⟨h.nodup, h.past, fun hmem => absurd hmem (hnew h), fun _ => nofun⟩,
    ⟨[], by simp, by simp⟩, fun h k hk hold => ?_⟩
  exact absurd (hold.incarnation ▸ hk) (hnew h)

theorem destroy_carries (hreleased : a.released = true) :
    Carries a { a with active := false, incarnation := a.incarnation + 1 } := by
  refine ⟨fun h =>
    ⟨h.nodup, fun k hk => (h.past k hk).trans (Nat.le_succ _), fun hmem => ?_, nofun⟩,
    ⟨[], by simp, by simp⟩, fun h k _ hold => ?_⟩
  · exact absurd (h.past _ hmem) (Nat.not_succ_le_self _)
  · exact absurd (hreleased.symm.trans hold.kept) nofun

theorem init_carries (hactive : a.active = false) :
    Carries a { a with active := true, offered := false, released := false } := by
  refine ⟨fun h => ⟨h.nodup, h.past, fun hmem => ?_, fun _ _ => rfl⟩, ⟨[], by simp, by simp⟩,
    fun h k _ hold => ?_⟩
  · exact absurd (hactive.symm.trans (h.present hmem).1) nofun
  · exact absurd (hactive.symm.trans hold.active) nofun

theorem event_carries (listeners : List ℕ) {ctx : NcStreamContext}
    {answers : List NabtoStreamNextEvent}
    (h : libraryEvent ctx (ncStreamNextEvent ctx answers) = true) :
    Carries ctx.life (ncStreamEvent listeners ctx answers).life := by
  rcases ncStreamEvent_cases listeners ctx answers with
    ⟨contentType, kept, hnext, heq⟩ | ⟨hnext, heq⟩ | ⟨-, -, hres⟩
  · simp only [hnext, libraryEvent, Bool.and_eq_true, Bool.not_eq_true'] at h
    rw [heq, ncStreamManagerReadyForAccept]
    split_ifs
    · exact handOver_carries (a := ctx.life) h.1 h.2
    · exact refuse_carries (a := ctx.life) h.2
  · simp only [hnext, libraryEvent, Bool.or_eq_true, Bool.not_eq_true'] at h
    rw [heq, ncStreamDestroy]
    split_ifs with hactive
    · exact .refl _
    · have hreleased : ctx.released = true := h.resolve_right (by simpa using hactive)
      exact destroy_carries (a := ctx.life) hreleased
  · exact .of_life hres.life

structure CarriesAll (a b : NcStreamManager) : Prop where
  length : b.slots.length = a.slots.length
  slots : ∀ (i : ℕ) (x y : StreamSlot), a.slots[i]? = some x → b.slots[i]? = some y →
    Carries x.stream.life y.stream.life

theorem modify_carries {a b : NcStreamManager} {i : ℕ} {f : StreamSlot → StreamSlot}
    (hb : b.slots = a.slots.modify i f)
    (h : ∀ slot, a.slots[i]? = some slot → Carries slot.stream.life (f slot).stream.life) :
    CarriesAll a b := by
  obtain ⟨hlength, hslots⟩ :=
    EachSlot.modify (R := fun x y => Carries x.life y.life) (fun _ => .refl _) hb h
  exact ⟨hlength, hslots⟩

theorem carries_slotRule : SlotRule (fun x y => Carries x.life y.life) libraryEvent :=
  .of_event (fun _ => .refl _) (fun _ _ _ => Carries.trans)
    (fun x _ _ _ hinactive => init_carries (a := x.life) hinactive)
    (fun listeners _ _ h => event_carries listeners h)
    (fun _ => ⟨.refl _, rfl⟩) (fun _ => ⟨.refl _, rfl⟩)

/-- The assumption on the library is one on the events of the streams that are asked. -/
theorem libraryAllows_asked {flags : NabtoStreamFlags} {ctx : NcStreamManager}
    {e : StreamManagerEvent} (h : libraryAllows flags ctx e = true) :
    (∀ i op, e ≠ .op i op) ∧ allAsked libraryEvent flags ctx e = true := by
  cases e with
  | op i op => simp [libraryAllows] at h
  | packet | removeConnection | queue | dtlsSent | rstSent | addListener | removeListener =>
    exact ⟨fun _ _ => by simp, h⟩

theorem managerStep_carries {flags : NabtoStreamFlags} {ctx ctx' : NcStreamManager}
    {e : StreamManagerEvent} (h : libraryAllows flags ctx e = true)
    (hs : streamManagerStep flags ctx e = some ctx') : CarriesAll ctx ctx' := by
  obtain ⟨hop, hasked⟩ := libraryAllows_asked h
  obtain ⟨hlength, hslots⟩ := carries_slotRule.managerStep hop hasked hs
  exact ⟨hlength, hslots⟩

end NabtoDevice
