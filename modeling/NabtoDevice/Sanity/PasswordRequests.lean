import NabtoDevice.Lib.Phases
import NabtoDevice.Sanity.Listener
import NabtoDevice.Spec.PasswordRequests

/-! The life of a `p2p/pwd-auth/1` request: queued, held by the application, answered. -/

namespace NabtoDevice

inductive PasswordLife
  | queued
  | held
  /-- `kept` until the application frees the request, which it may do before it sets a
  password; then the request is not marked as handled. -/
  | answered (response : CoapResponse) (handled kept : Bool) (marked : kept = true → handled = true)

namespace PasswordLife

def request : PasswordLife → PwdAuthRequest
  | queued => .new
  | held => { PwdAuthRequest.new with held := true }
  | answered response handled kept _ =>
    { PwdAuthRequest.new.finish response with handled, held := kept }

def isQueued : PasswordLife → Bool
  | queued => true
  | _ => false

def refused (response : CoapResponse) : PasswordLife := answered response false false (by simp)

variable {p : PasswordLife}

theorem eq_queued (h : p.isQueued = true) : p = queued := by
  cases p with
  | queued => rfl
  | held | answered => cases h

theorem setPassword (h : p.request.held = true) (response : CoapResponse) :
    ∃ p' : PasswordLife, p'.request = p.request.setPassword response ∧
      p'.isQueued = p.isQueued := by
  cases p with
  | queued => cases h
  | held => exact ⟨answered response true true (fun _ => rfl), rfl, rfl⟩
  | answered old handled kept marked =>
    obtain rfl : kept = true := h
    obtain rfl := marked rfl
    exact ⟨answered old true true marked, rfl, rfl⟩

theorem free (h : p.request.held = true) (response : CoapResponse) :
    ∃ p' : PasswordLife, p'.request = p.request.requestFree response ∧
      p'.isQueued = p.isQueued := by
  cases p with
  | queued => cases h
  | held => exact ⟨refused response, rfl, rfl⟩
  | answered old handled kept marked =>
    obtain rfl : kept = true := h
    obtain rfl := marked rfl
    exact ⟨answered old true false (by simp), rfl, rfl⟩

end PasswordLife

/-- A listener that fails takes the handler from the core and leaves the requests alone. -/
theorem fail_password {ec : NpErrorCode} (hec : ec ≠ .ok) (items : List ℕ) (fut : Option ℕ)
    (m : PasswordModule) :
    Listener.fail passwordEffects items fut ec m = { m with passwordRequestHandler := false } := by
  have hcall : ∀ ec' (item : ℕ), ec' ≠ NpErrorCode.ok → ec' ≠ .aborted →
      (passwordEffects.cb ⟨ec', none, some item⟩ m).2 = m := by
    intro ec' item _ hne
    cases ec' <;> first | exact absurd rfl hne | rfl
  rw [Listener.fail, Listener.drain_eq_self _ hec hcall]
  cases fut <;> rfl

def PasswordRequests.queue (p : PasswordRequests) : List ℕ := p.listener.elim [] (·.eventsList)

/-- The requests are in phases of their lives, and those queued are on the listener. -/
def Underway (queue : List ℕ) (m : PasswordModule) : Prop :=
  Phases.Tracks PasswordLife.request PasswordLife.isQueued m.requests fun i => queue.count i

theorem Underway.deliver (fut item : ℕ) (rest : List ℕ) (m : PasswordModule)
    (h : Underway (item :: rest) m) :
    Underway rest (Listener.deliver passwordEffects fut item m) := by
  refine Phases.Tracks.pop h (Phases.count_cons rest item) fun p hp => ?_
  obtain rfl := PasswordLife.eq_queued hp
  exact ⟨.held, rfl, rfl⟩

end NabtoDevice
