import NabtoDevice.Spec.Listener

/-! What one call does to a listener, for every callback. A sound listener is either live,
with its callback set, or has failed and keeps neither events nor a future. -/

namespace NabtoDevice
namespace Listener

variable {σ α φ : Type} (eff : ListenerEffects σ α φ)

structure Sound (l : Listener α φ) : Prop where
  initialized : l.isInitialized = true
  live : l.ec = .ok → l.cb = true
  failed : l.ec ≠ .ok → l.eventsList = [] ∧ l.fut = none ∧ l.cb = false

theorem sound_init : (new.init : Listener α φ).Sound := ⟨rfl, fun _ => rfl, fun h => absurd rfl h⟩

/-- What happens outside the listener when `item` is resolved to `fut`. -/
def deliver (fut : φ) (item : α) (s : σ) : σ :=
  let r := eff.cb ⟨.ok, some fut, some item⟩ (eff.genericFutureResolverData item s)
  eff.futureResolve fut r.1 r.2

/-- What happens outside to the events that are queued when the listener fails with `ec`. -/
def drain (ec : NpErrorCode) (items : List α) (s : σ) : σ :=
  items.foldl
    (fun s item => (eff.cb ⟨if ec = .aborted then .stopped else ec, none, some item⟩ s).2) s

/-- The queued events are never called back with `NABTO_EC_ABORTED`. -/
theorem drain_code_ne {ec : NpErrorCode} (hec : ec ≠ .ok) :
    (if ec = .aborted then NpErrorCode.stopped else ec) ≠ .ok ∧
      (if ec = .aborted then NpErrorCode.stopped else ec) ≠ .aborted := by
  by_cases haborted : ec = .aborted
  · simp [haborted]
  · simp [haborted, hec]

theorem drain_eq_self {ec : NpErrorCode} {s : σ} (hec : ec ≠ .ok)
    (hcb : ∀ ec' item, ec' ≠ .ok → ec' ≠ .aborted → (eff.cb ⟨ec', none, some item⟩ s).2 = s)
    (items : List α) : drain eff ec items s = s :=
  List.foldl_fixed' (fun item => hcb _ item (drain_code_ne hec).1 (drain_code_ne hec).2) items

def fail (items : List α) (fut : Option φ) (ec : NpErrorCode) (s : σ) : σ :=
  let s := drain eff ec items s
  (eff.cb ⟨.aborted, none, none⟩ (fut.elim s fun fut => eff.futureResolve fut ec s)).2

theorem tryResolve_idle {l : Listener α φ} {s : σ} (h : l.fut = none ∨ l.eventsList = []) :
    l.tryResolve eff s = (l, s) := by
  rcases h with h | h
  · simp [tryResolve, h]
  · cases hfut : l.fut with
    | none => simp [tryResolve, hfut]
    | some fut => simp [tryResolve, hfut, h]

/-- The next event is passed on when a future waits for it. -/
theorem tryResolve_cases {l : Listener α φ} {s : σ} (hcb : l.cb = true) :
    l.tryResolve eff s = (l, s) ∨
      ∃ fut item rest, l.fut = some fut ∧ l.eventsList = item :: rest ∧
        l.tryResolve eff s =
          ({ l with eventsList := rest, fut := none }, deliver eff fut item s) := by
  cases hfut : l.fut with
  | none => exact Or.inl (tryResolve_idle eff (Or.inl hfut))
  | some fut =>
    cases hitems : l.eventsList with
    | nil => exact Or.inl (tryResolve_idle eff (Or.inr hitems))
    | cons item rest =>
      simp [tryResolve, deliver, hcb, hfut, hitems]

inductive Fails (l : Listener α φ) (s : σ) : Listener α φ × σ → Prop
  | live (ec : NpErrorCode) : l.ec = .ok → ec ≠ .ok →
      Fails l s ({ l with ec, eventsList := [], fut := none, cb := false },
        fail eff l.eventsList l.fut ec s)
  | failed (ec : NpErrorCode) : l.ec ≠ .ok → ec ≠ .ok → Fails l s ({ l with ec }, s)

namespace Sound

variable {l : Listener α φ} {s : σ}

theorem eventsList_of_failed (h : l.Sound) (hec : l.ec ≠ .ok) : l.eventsList = [] :=
  (h.failed hec).1

theorem tryResolve_failed (h : l.Sound) (hec : l.ec ≠ .ok) : l.tryResolve eff s = (l, s) :=
  tryResolve_idle eff (Or.inl (h.failed hec).2.1)

theorem addEvent_failed (h : l.Sound) (hec : l.ec ≠ .ok) (data : α) :
    l.addEvent eff data s = (l.ec, l, s) := by
  simp [addEvent, h.initialized, hec]

theorem addEvent_live (h : l.Sound) (hec : l.ec = .ok) (data : α) :
    l.addEvent eff data s =
      (.ok, tryResolve eff { l with eventsList := l.eventsList ++ [data] } s) := by
  simp [addEvent, h.initialized, hec]

theorem initFuture_failed (h : l.Sound) (hec : l.ec ≠ .ok) (fut : φ) :
    l.initFuture fut = (l.ec, l) := by
  simp [initFuture, h.initialized, hec]

theorem initFuture_busy (h : l.Sound) (hec : l.ec = .ok) (hfut : l.fut.isSome) (fut : φ) :
    l.initFuture fut = (.operationInProgress, l) := by
  simp [initFuture, h.initialized, hec, hfut]

theorem initFuture_free (h : l.Sound) (hec : l.ec = .ok) (hfut : l.fut = none) (fut : φ) :
    l.initFuture fut = (.ok, { l with fut := some fut }) := by
  simp [initFuture, h.initialized, hec, hfut]

theorem setErrorCode_eq (h : l.Sound) (ec : NpErrorCode) :
    l.setErrorCode eff ec s = resolveErrorState eff { l with ec } s := by
  simp [setErrorCode, h.initialized]

theorem setErrorCode_live (h : l.Sound) (hec : l.ec = .ok) (ec : NpErrorCode) :
    l.setErrorCode eff ec s =
      ({ l with ec, eventsList := [], fut := none, cb := false },
        fail eff l.eventsList l.fut ec s) := by
  have hcb := h.live hec
  rw [h.setErrorCode_eq]
  cases l.fut <;> simp [resolveErrorState, fail, drain, notify, hcb]

/-- A second error code finds nothing left to do. -/
theorem setErrorCode_failed (h : l.Sound) (hec : l.ec ≠ .ok) (ec : NpErrorCode) :
    l.setErrorCode eff ec s = ({ l with ec }, s) := by
  obtain ⟨hitems, hfut, hcb⟩ := h.failed hec
  rw [h.setErrorCode_eq]
  cases l
  cases hitems
  cases hfut
  cases hcb
  rfl

theorem stop_failed (h : l.Sound) (hec : l.ec ≠ .ok) : l.stop eff s = (l.ec, l, s) := by
  simp [stop, h.initialized, hec]

theorem stop_live (h : l.Sound) (hec : l.ec = .ok) :
    l.stop eff s = (.stopped, l.setErrorCode eff .stopped s) := by
  simp [stop, h.initialized, hec]

theorem setErrorCode_fails (h : l.Sound) {ec : NpErrorCode} (hec : ec ≠ .ok) :
    Fails eff l s (l.setErrorCode eff ec s) := by
  by_cases hlive : l.ec = .ok
  · rw [h.setErrorCode_live eff hlive]
    exact .live ec hlive hec
  · rw [h.setErrorCode_failed eff hlive]
    exact .failed ec hlive hec

theorem stop_fails (h : l.Sound) : Fails eff l s (l.stop eff s).2 := by
  by_cases hlive : l.ec = .ok
  · rw [h.stop_live eff hlive]
    exact h.setErrorCode_fails eff (by simp)
  · rw [h.stop_failed eff hlive]
    exact .failed l.ec hlive hlive

theorem fails {r : Listener α φ × σ} (h : l.Sound) (hr : Fails eff l s r) :
    r.1.Sound ∧ r.1.ec ≠ .ok := by
  cases hr with
  | live ec _ hec =>
    exact ⟨⟨h.initialized, fun hok => absurd hok hec, fun _ => ⟨rfl, rfl, rfl⟩⟩, hec⟩
  | failed ec hne hec =>
    exact ⟨⟨h.initialized, fun hok => absurd hok hec, fun _ => h.failed hne⟩, hec⟩

theorem resolved (h : l.Sound) {items : List α} {fut : Option φ} (hec : l.ec = .ok) :
    ({ l with eventsList := items, fut := fut } : Listener α φ).Sound :=
  ⟨h.initialized, h.live, fun hne => absurd hec hne⟩

/-- What holds of the queue and the rest of the program survives a resolve when it
survives each delivery of the first event. -/
theorem tryResolve_keeps {P : List α → σ → Prop} (h : l.Sound)
    (hP : ∀ fut item rest, l.fut = some fut → P (item :: rest) s → P rest (deliver eff fut item s))
    (hs : P l.eventsList s) :
    P (l.tryResolve eff s).1.eventsList (l.tryResolve eff s).2 := by
  by_cases hec : l.ec = .ok
  · rcases tryResolve_cases eff (s := s) (h.live hec) with
      heq | ⟨fut, item, rest, hfut, hitems, heq⟩
    · rw [heq]
      exact hs
    · rw [hitems] at hs
      rw [heq]
      exact hP fut item rest hfut hs
  · rw [h.tryResolve_failed eff hec]
    exact hs

theorem tryResolve (h : l.Sound) : (l.tryResolve eff s).1.Sound := by
  by_cases hec : l.ec = .ok
  · rcases tryResolve_cases eff (s := s) (h.live hec) with heq | ⟨fut, item, rest, -, -, heq⟩
    · rw [heq]
      exact h
    · rw [heq]
      exact h.resolved hec
  · rw [h.tryResolve_failed eff hec]
    exact h

theorem addEvent (h : l.Sound) (data : α) : (l.addEvent eff data s).2.1.Sound := by
  by_cases hec : l.ec = .ok
  · rw [h.addEvent_live eff hec]
    exact (h.resolved hec : Sound { l with eventsList := l.eventsList ++ [data] }).tryResolve eff
  · rw [h.addEvent_failed eff hec]
    exact h

theorem initFuture (h : l.Sound) (fut : φ) : (l.initFuture fut).2.Sound := by
  by_cases hec : l.ec = .ok
  · cases hfut : l.fut with
    | some old =>
      rw [h.initFuture_busy hec (by simp [hfut])]
      exact h
    | none =>
      rw [h.initFuture_free hec hfut]
      exact h.resolved hec
  · rw [h.initFuture_failed hec]
    exact h

/-- A new request of the application is refused or gives the listener a future. -/
theorem newRequest_keeps {β : Type*} (P : β → Prop) {refused : β} (accepted : Listener α φ → β)
    (h : l.Sound) (fut : φ) (hrefused : P refused)
    (haccepted : l.ec = .ok → Sound { l with fut := some fut } →
      P (accepted { l with fut := some fut })) :
    P (if l.ec ≠ .ok then refused
      else if (l.initFuture fut).1 ≠ .ok then refused else accepted (l.initFuture fut).2) := by
  by_cases hec : l.ec = .ok
  · rw [if_neg (not_not.mpr hec)]
    cases hfut : l.fut with
    | some old =>
      rw [h.initFuture_busy hec (by simp [hfut]), if_pos (by simp)]
      exact hrefused
    | none =>
      rw [h.initFuture_free hec hfut, if_neg (by simp)]
      exact haccepted hec (h.resolved hec)
  · rw [if_pos hec]
    exact hrefused

end Sound

end Listener
end NabtoDevice
