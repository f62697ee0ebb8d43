import NabtoDevice.Lib.Phases
import NabtoDevice.Sanity.Listener
import NabtoDevice.Spec.Authorization

/-! The life of an authorization request. The flags of a request are those of one of the
phases below, every operation takes it from one phase to another, and only a request that
waits for the application is on the listener. -/

namespace NabtoDevice

inductive AuthorizationLife
  | created
  | discarded
  | queued
  | held
  /-- The verdict is taken. `true` needs the application's first verdict to be `true`;
  `kept` until the application frees the request, `called` when the callback has run. -/
  | decided (verdict : Bool) (verdicts : List Bool)
      (first : verdict = true → verdicts.head? = some true) (kept called : Bool)

namespace AuthorizationLife

def request : AuthorizationLife → AuthorizationRequest
  | created => .createRequest
  | discarded => { AuthorizationRequest.createRequest with platformDone := true, freed := 1 }
  | queued => { AuthorizationRequest.createRequest with apiDone := false, checked := true }
  | held =>
    { AuthorizationRequest.createRequest with apiDone := false, checked := true, held := true }
  | decided verdict verdicts _ kept called =>
    { apiDone := !kept
      platformDone := called
      verdict
      verdictDone := true
      verdictEvent := !called
      checked := true
      held := kept
      verdicts
      callbacks := if called then [verdict] else []
      freed := if called && !kept then 1 else 0 }

def isQueued : AuthorizationLife → Bool
  | queued => true
  | _ => false

def denied : AuthorizationLife := decided false [] (by simp) false false

variable {p : AuthorizationLife}

theorem eq_created (h : (!p.request.checked && !p.request.platformDone) = true) : p = created := by
  cases p with
  | created => rfl
  | discarded | queued | held | decided => cases h

theorem discard (h : (!p.request.checked && !p.request.platformDone) = true) :
    ∃ p' : AuthorizationLife, p'.request = p.request.discardRequest ∧ p'.isQueued = p.isQueued := by
  obtain rfl := eq_created h
  exact ⟨discarded, rfl, rfl⟩

theorem verdict (h : p.request.held = true) (v : Bool) :
    ∃ p' : AuthorizationLife, p'.request = p.request.requestVerdict v ∧
      p'.isQueued = p.isQueued := by
  cases p with
  | created | discarded | queued => cases h
  | held => exact ⟨decided v [v] (fun hv => congrArg some hv) true false, rfl, rfl⟩
  | decided verdict verdicts first kept called =>
    -- A later verdict is recorded, but the first one stands.
    refine ⟨decided verdict (verdicts ++ [v]) (fun hv => ?_) kept called, rfl, rfl⟩
    rw [List.head?_append, first hv]
    rfl

theorem free (h : p.request.held = true) :
    ∃ p' : AuthorizationLife, p'.request = p.request.requestFree ∧ p'.isQueued = p.isQueued := by
  cases p with
  | created | discarded | queued => cases h
  | held => exact ⟨denied, rfl, rfl⟩
  | decided verdict verdicts first kept called =>
    obtain rfl : kept = true := h
    refine ⟨decided verdict verdicts first false called, ?_, rfl⟩
    cases called <;> rfl

theorem verdictEvent (h : p.request.verdictEvent = true) :
    ∃ p' : AuthorizationLife, p'.request = p.request.handleVerdict ∧ p'.isQueued = p.isQueued := by
  cases p with
  | created | discarded | queued | held => cases h
  | decided verdict verdicts first kept called =>
    cases called with
    | true => cases h
    | false =>
      refine ⟨decided verdict verdicts first kept true, ?_, rfl⟩
      cases kept <;> rfl

theorem eq_queued (h : p.isQueued = true) : p = queued := by
  cases p with
  | queued => rfl
  | created | discarded | held | decided => cases h

end AuthorizationLife

/-- A listener that fails leaves all requests as they are. -/
theorem fail_authorization {ec : NpErrorCode} (hec : ec ≠ .ok) (items : List ℕ) (fut : Option ℕ)
    (requests : List AuthorizationRequest) :
    Listener.fail authorizationEffects items fut ec requests = requests := by
  have hcall : ∀ call : ListenerCall ℕ ℕ, call.ec ≠ .ok →
      (authorizationEffects.cb call requests).2 = requests := by
    rintro ⟨ec, future, data⟩ hne
    cases ec <;> first | exact absurd rfl hne | rfl
  have hdrain : Listener.drain authorizationEffects ec items requests = requests :=
    Listener.drain_eq_self _ hec (fun ec' item hne _ => hcall ⟨ec', none, some item⟩ hne) items
  rw [Listener.fail, hdrain]
  cases fut <;> exact hcall _ (by simp)

def Authorization.queue (a : Authorization) : List ℕ := a.listener.elim [] (·.eventsList)

/-- The requests are in phases of their lives, and those queued are on the listener. -/
def Alive (queue : List ℕ) (requests : List AuthorizationRequest) : Prop :=
  Phases.Tracks AuthorizationLife.request AuthorizationLife.isQueued requests fun i => queue.count i

namespace Alive

variable {queue : List ℕ} {requests : List AuthorizationRequest}

/-- The listener hands its first request to the application. -/
theorem deliver (fut item : ℕ) (rest : List ℕ) (requests : List AuthorizationRequest)
    (h : Alive (item :: rest) requests) :
    Alive rest (Listener.deliver authorizationEffects fut item requests) := by
  refine Phases.Tracks.pop h (Phases.count_cons rest item) fun p hp => ?_
  obtain rfl := AuthorizationLife.eq_queued hp
  exact ⟨.held, rfl, rfl⟩

/-- A request that is checked joins the queue. -/
theorem enqueue {i : ℕ} (h : Alive queue requests)
    (hi : requests[i]?.any (fun r => !r.checked && !r.platformDone) = true) :
    Alive (queue ++ [i])
      (requests.modify i fun r => { r with apiDone := false, checked := true }) := by
  refine Phases.Tracks.push h (Phases.count_concat queue i) (fun hnone => ?_) fun p hr => ?_
  · rw [hnone] at hi
    cases hi
  · rw [hr] at hi
    obtain rfl := AuthorizationLife.eq_created hi
    exact ⟨rfl, .queued, rfl, rfl⟩

/-- A request that cannot be queued is denied at once. -/
theorem deny {i : ℕ} (h : Alive queue requests)
    (hi : requests[i]?.any (fun r => !r.checked && !r.platformDone) = true) :
    Alive queue (denyRequest
      (requests.modify i fun r => { r with apiDone := false, checked := true }) i) := by
  rw [denyRequest, List.modify_modify_eq]
  refine Phases.Tracks.update h fun p hr => ?_
  rw [hr] at hi
  obtain rfl := AuthorizationLife.eq_created hi
  exact ⟨.denied, rfl, rfl⟩

end Alive

end NabtoDevice
