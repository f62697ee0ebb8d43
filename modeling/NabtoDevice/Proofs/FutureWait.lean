import NabtoDevice.Spec.Future
import Mathlib.Tactic.Common

/-! The two wait functions of a future. `nabto_device_future_wait` looks at `ready` before
it waits but not after it, and a resolve wakes one thread at most, or none if the future has
a callback. -/

namespace NabtoDevice

namespace FutureWaits

variable {τ : Type*}

structure Sound (s : FutureWaits τ) : Prop where
  /-- A thread returns what the future was resolved with, or that it is not resolved. -/
  returned : ∀ r ∈ s.returned, r.ec ≠ .futureNotResolved → r.resolution = some r.ec
  /-- Once the future is resolved only a thread with a time-out is left blocked. -/
  signalled : s.resolution.isSome → ∀ waiter ∈ s.blocked, waiter.timed = true

structure Kept (s : FutureWaits τ) : Prop where
  ready : s.future.ready = s.resolution.isSome
  ec : s.future.ec = s.resolution.getD .ok

end FutureWaits

/-- A thread leaves the condition wait of `nabto_device_future_wait` while the future is not
ready, or a resolve leaves a thread blocked there. -/
def futureWaitMisses {τ : Type*} [DecidableEq τ] (s : FutureWaits τ) : FutureWaitEvent τ → Bool
  | .resume waiter => !waiter.timed && !s.future.ready
  | .resolve _ signalled =>
    (signalled.elim s.blocked s.blocked.erase).any fun waiter => !waiter.timed
  | _ => false

namespace FutureWaits

variable {τ : Type*} {s s' : FutureWaits τ}

theorem waiterEc_of_ready (h : s.Kept) (hready : s.future.ready = true) (waiter : FutureWaiter τ) :
    s.resolution = some (s.waiterEc waiter) := by
  have hec : s.waiterEc waiter = s.future.ec := by
    unfold waiterEc NabtoDeviceFuture.timedWaitEc NabtoDeviceFuture.waitEc
    rw [if_pos hready, ite_self]
  obtain ⟨ec, hsome⟩ := Option.isSome_iff_exists.mp (h.ready ▸ hready)
  rw [hec, h.ec, hsome, Option.getD_some]

theorem Sound.doReturn (h : s.Sound) (waiter : FutureWaiter τ) :
    (s.doReturn waiter).Sound ↔
      (s.waiterEc waiter ≠ .futureNotResolved → s.resolution = some (s.waiterEc waiter)) := by
  constructor
  · intro hs
    exact hs.returned _ (List.mem_append_right _ List.mem_cons_self)
  · intro hnew
    refine ⟨fun r hr => ?_, h.signalled⟩
    rcases List.mem_append.mp hr with hr | hr
    · exact h.returned r hr
    · rw [List.mem_singleton.mp hr]
      exact hnew

/-- A thread that was woken returns as it should unless it is in `nabto_device_future_wait`
and the future is not ready: the code is then the one a reset leaves. -/
theorem Kept.resume_iff (h : s.Kept) (waiter : FutureWaiter τ) :
    (s.waiterEc waiter ≠ .futureNotResolved → s.resolution = some (s.waiterEc waiter)) ↔
      (!waiter.timed && !s.future.ready) = false := by
  cases hready : s.future.ready with
  | true => exact iff_of_true (fun _ => waiterEc_of_ready h hready waiter) (Bool.and_false _)
  | false =>
    have hnone : s.resolution = none :=
      Option.not_isSome_iff_eq_none.mp (by rw [← h.ready, hready]; decide)
    have hec : s.future.ec = .ok := by rw [h.ec, hnone]; rfl
    unfold waiterEc NabtoDeviceFuture.timedWaitEc NabtoDeviceFuture.waitEc
    rw [hnone, hready, hec]
    cases waiter.timed <;> decide

variable [DecidableEq τ]

theorem Sound.wake (h : s.Sound) (waiter : FutureWaiter τ) : (s.wake waiter).Sound :=
  ⟨h.returned, fun hsome other hother => h.signalled hsome other (List.mem_of_mem_erase hother)⟩

theorem resolve_eq {ec : NpErrorCode} {signalled : Option (FutureWaiter τ)}
    (hs : s.step (.resolve ec signalled) = some s') :
    s'.future = (s.future.resolve ec).1 ∧ s'.resolution = some ec ∧ s'.returned = s.returned ∧
      s'.blocked = signalled.elim s.blocked s.blocked.erase := by
  simp only [step] at hs
  split_ifs at hs with hcb hnone
  · cases hs
    rw [hnone]
    exact ⟨rfl, rfl, rfl, rfl⟩
  · cases signalled with
    | none =>
      obtain ⟨-, rfl⟩ := Machine.of_guard hs
      exact ⟨rfl, rfl, rfl, rfl⟩
    | some waiter =>
      obtain ⟨-, rfl⟩ := Machine.of_guard hs
      exact ⟨rfl, rfl, rfl, rfl⟩

theorem Kept.step (h : s.Kept) {e : FutureWaitEvent τ} (hs : s.step e = some s') : s'.Kept := by
  cases e with
  | wait waiter =>
    obtain ⟨-, hs⟩ := Option.ite_none_left_eq_some.mp hs
    split_ifs at hs <;> cases hs <;> exact ⟨h.ready, h.ec⟩
  | wake waiter =>
    obtain ⟨-, rfl⟩ := Machine.of_guard hs
    exact ⟨h.ready, h.ec⟩
  | resume waiter =>
    obtain ⟨-, rfl⟩ := Machine.of_guard hs
    exact ⟨h.ready, h.ec⟩
  | resolve ec signalled =>
    obtain ⟨hfuture, hresolution, -, -⟩ := resolve_eq hs
    constructor <;> rw [hfuture, hresolution] <;> rfl
  | reset =>
    cases hs
    exact ⟨rfl, rfl⟩
  | setCallback callback data =>
    cases hs
    exact ⟨h.ready, h.ec⟩
  | popped =>
    cases hs
    exact ⟨h.ready, h.ec⟩

/-- A step from a sound state ends in one exactly if it does not miss. -/
theorem Sound.step_iff (hsound : s.Sound) (h : s.Kept) {e : FutureWaitEvent τ}
    (hs : s.step e = some s') : s'.Sound ↔ futureWaitMisses s e = false := by
  cases e with
  | wait waiter =>
    refine iff_of_true ?_ rfl
    obtain ⟨-, hs⟩ := Option.ite_none_left_eq_some.mp hs
    split_ifs at hs with hready
    · cases hs
      exact (hsound.doReturn waiter).mpr fun _ => waiterEc_of_ready h hready waiter
    · cases hs
      exact ⟨hsound.returned, fun hsome => absurd (h.ready.trans hsome) hready⟩
  | wake waiter =>
    obtain ⟨-, rfl⟩ := Machine.of_guard hs
    exact iff_of_true (hsound.wake waiter) rfl
  | resume waiter =>
    obtain ⟨-, rfl⟩ := Machine.of_guard hs
    have hsound' : { s with woken := s.woken.erase waiter }.Sound :=
      ⟨hsound.returned, hsound.signalled⟩
    exact (hsound'.doReturn waiter).trans (h.resume_iff waiter)
  | resolve ec signalled =>
    obtain ⟨-, hresolution, hreturned, hblocked⟩ := resolve_eq hs
    simp only [futureWaitMisses, ← hblocked, List.any_eq_false, Bool.not_eq_true,
      Bool.not_eq_false']
    constructor
    · exact fun hs' => hs'.signalled (by rw [hresolution]; rfl)
    · exact fun hall => ⟨hreturned ▸ hsound.returned, fun _ => hall⟩
  | reset =>
    cases hs
    exact iff_of_true ⟨hsound.returned, fun hsome => (by cases hsome)⟩ rfl
  | setCallback callback data =>
    cases hs
    exact iff_of_true ⟨hsound.returned, hsound.signalled⟩ rfl
  | popped =>
    cases hs
    exact iff_of_true ⟨hsound.returned, hsound.signalled⟩ rfl

end FutureWaits

/-- For any number of threads, in every interleaving: the wait functions return what the
future was resolved with and no resolve leaves a thread in `nabto_device_future_wait`
blocked, exactly if no thread leaves its condition wait there too early and every resolve
finds at most the thread it wakes blocked there. -/
theorem futureWaits_sound_iff {τ : Type*} [DecidableEq τ] {run : List (FutureWaitEvent τ)}
    {s : FutureWaits τ} (hr : (futureWaits τ).Run run s) :
    (∀ t, (futureWaits τ).Visits run t → t.Sound) ↔
      ∀ t e, (futureWaits τ).Takes run t e → futureWaitMisses t e = false := by
  refine hr.good_iff_takes FutureWaits.Kept FutureWaits.Sound
    (fun t e => futureWaitMisses t e = false)
    ⟨rfl, rfl⟩ ⟨fun _ h => absurd h List.not_mem_nil,
      fun h => (by cases h)⟩ fun t e t' hkept hsound hs => ?_
  exact ⟨hsound.step_iff hkept hs, fun _ => hkept.step hs⟩

/-- One thread waits, one waits with a time-out that runs out, and the future is used again
after both have returned. -/
theorem futureWaits_sound_reused :
    ∃ (run : List (FutureWaitEvent ℕ)) (s : FutureWaits ℕ), (futureWaits ℕ).Run run s ∧
      s.returned.map (·.ec) = [.futureNotResolved, .aborted, .ok] ∧
      ∀ t, (futureWaits ℕ).Visits run t → t.Sound := by
  have hr : (futureWaits ℕ).Run
    [.wait ⟨0, true⟩, .wake ⟨0, true⟩, .resume ⟨0, true⟩, .wait ⟨1, false⟩,
      .resolve .aborted (some ⟨1, false⟩), .resume ⟨1, false⟩, .reset, .resolve .ok none,
        .wait ⟨1, false⟩] _ :=
    Machine.run_of_exec rfl
  refine ⟨_, _, hr, by decide +kernel, (futureWaits_sound_iff hr).mpr fun t e ht => ?_⟩
  exact Machine.takes_eq_false_of_allTaken (by decide +kernel) ht

/-- A spurious wake-up returns `NABTO_DEVICE_EC_OK` for a future that is not resolved, of two
waiting threads one stays blocked, and with a callback set no thread is woken. -/
theorem futureWait_returns_unresolved :
    (∃ run s, (futureWaits ℕ).Run run s ∧ s.future.ready = false ∧
      s.returned = [⟨⟨0, false⟩, .ok, none⟩] ∧ ¬ s.Sound) ∧
    (∃ run s, (futureWaits ℕ).Run run s ∧ s.future.ready = true ∧ s.blocked = [⟨1, false⟩] ∧
      ¬ s.Sound) ∧
    ∃ run s, (futureWaits ℕ).Run run s ∧ s.future.ready = true ∧ s.blocked = [⟨0, false⟩] ∧
      s.woken = [] ∧ ¬ s.Sound := by
  refine ⟨⟨[.wait ⟨0, false⟩, .wake ⟨0, false⟩, .resume ⟨0, false⟩], _, Machine.run_of_exec rfl,
    rfl, rfl, ?_⟩, ⟨[.wait ⟨0, false⟩, .wait ⟨1, false⟩, .resolve .ok (some ⟨0, false⟩)], _,
    Machine.run_of_exec rfl, rfl, rfl, ?_⟩, ⟨[.setCallback 1 0, .wait ⟨0, false⟩,
      .resolve .ok none], _, Machine.run_of_exec rfl, rfl, rfl, rfl, ?_⟩⟩
  · intro h
    cases h.returned _ List.mem_cons_self (by decide)
  · intro h
    cases h.signalled rfl _ List.mem_cons_self
  · intro h
    cases h.signalled rfl _ List.mem_cons_self

end NabtoDevice
