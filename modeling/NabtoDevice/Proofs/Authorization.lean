import NabtoDevice.Sanity.Authorization

/-! Every authorization request that is checked gets its verdict once, and is freed once
after that. This holds as long as the listener does not fail with requests in its queue:
its callback does nothing about those, so nobody decides or frees them. -/

namespace NabtoDevice

structure RequestAccounted (queue : List ℕ) (i : ℕ) (r : AuthorizationRequest) : Prop where
  /-- Queued, held by the application for a verdict, with the verdict event pending, or
  called back: exactly one of them, and once. -/
  situation : queue.count i + (if r.held && !r.verdictDone then 1 else 0) +
    (if r.verdictEvent then 1 else 0) + r.callbacks.length = 1
  allowed : true ∈ r.callbacks → r.verdicts.head? = some true
  /-- It is freed once the callback has run and the application does not hold it. -/
  freed : r.freed = if r.callbacks ≠ [] ∧ r.held = false then 1 else 0

def Authorization.Accounted (a : Authorization) : Prop :=
  ∀ i r, a.requests[i]? = some r → r.checked = true → RequestAccounted a.queue i r

structure AuthorizationInv (a : Authorization) : Prop where
  sound : ∀ l, a.listener = some l → l.Sound
  alive : Alive a.queue a.requests

theorem RequestAccounted.of_life {queue : List ℕ} {i : ℕ} {p : AuthorizationLife}
    (hq : queue.count i = if p.isQueued then 1 else 0) (hc : p.request.checked = true) :
    RequestAccounted queue i p.request := by
  cases p with
  | created | discarded => cases hc
  | queued =>
    have hone : queue.count i = 1 := hq
    exact ⟨by rw [hone]; rfl, fun htrue => absurd htrue List.not_mem_nil, rfl⟩
  | held =>
    have hnone : queue.count i = 0 := hq
    exact ⟨by rw [hnone]; rfl, fun htrue => absurd htrue List.not_mem_nil, rfl⟩
  | decided verdict verdicts first kept called =>
    have hnone : queue.count i = 0 := hq
    cases called with
    | false =>
      refine ⟨?_, fun htrue => absurd htrue List.not_mem_nil, rfl⟩
      simp [AuthorizationLife.request, hnone]
    | true =>
      refine ⟨by simp [AuthorizationLife.request, hnone], fun htrue => first ?_, ?_⟩
      · exact (List.mem_singleton.mp htrue).symm
      · cases kept <;> simp [AuthorizationLife.request]

theorem AuthorizationInv.accounted {a : Authorization} (h : AuthorizationInv a) : a.Accounted := by
  intro i r hr hc
  obtain ⟨p, rfl, hq⟩ := h.alive.phase i r hr
  exact .of_life hq hc

namespace AuthorizationInv

variable {a : Authorization}

theorem update (h : AuthorizationInv a) (i : ℕ) (f : AuthorizationRequest → AuthorizationRequest)
    {guard : AuthorizationRequest → Bool} (hi : a.requests[i]?.any guard = true)
    (hlife : ∀ p : AuthorizationLife, guard p.request = true →
      ∃ p' : AuthorizationLife, p'.request = f p.request ∧ p'.isQueued = p.isQueued) :
    AuthorizationInv { a with requests := a.requests.modify i f } := by
  refine ⟨h.sound, Phases.Tracks.update h.alive fun p hr => hlife p ?_⟩
  rw [hr] at hi
  exact hi

theorem create (h : AuthorizationInv a) :
    AuthorizationInv { a with requests := a.requests ++ [.createRequest] } :=
  ⟨h.sound, Phases.Tracks.create h.alive AuthorizationLife.created rfl⟩

theorem tryResolve {l : Listener ℕ ℕ} {requests : List AuthorizationRequest} (hl : l.Sound)
    (h : Alive l.eventsList requests) :
    AuthorizationInv ⟨(l.tryResolve authorizationEffects requests).2,
      some (l.tryResolve authorizationEffects requests).1⟩ := by
  refine ⟨fun l' hl' => ?_,
    hl.tryResolve_keeps _ (fun fut item rest _ => Alive.deliver fut item rest _) h⟩
  obtain rfl := Option.some.inj hl'
  exact hl.tryResolve _

theorem checkAccess (h : AuthorizationInv a) {i : ℕ}
    (hi : a.requests[i]?.any (fun r => !r.checked && !r.platformDone) = true) :
    AuthorizationInv (checkAccess a i) := by
  have halive := h.alive
  rw [Authorization.queue] at halive
  cases hlist : a.listener with
  | none =>
    rw [hlist] at halive
    simp only [NabtoDevice.checkAccess, hlist]
    exact ⟨fun l hl => by simp at hl, by simpa [Authorization.queue, hlist] using halive.deny hi⟩
  | some l =>
    have hl := h.sound l hlist
    rw [hlist] at halive
    by_cases hec : l.ec = .ok
    · simp only [NabtoDevice.checkAccess, hlist, hl.addEvent_live _ hec, if_true]
      exact tryResolve (hl.resolved hec) (halive.enqueue hi)
    · simp only [NabtoDevice.checkAccess, hlist, hl.addEvent_failed _ hec, if_neg hec]
      exact ⟨fun l' hl' => Option.some.inj hl' ▸ hl, halive.deny hi⟩

theorem initListener (h : AuthorizationInv a) : AuthorizationInv (authorizationInitListener a) := by
  cases hlist : a.listener with
  | some l => simpa [authorizationInitListener, hlist] using h
  | none =>
    have halive := h.alive
    rw [Authorization.queue, hlist] at halive
    simp only [authorizationInitListener, hlist]
    exact ⟨fun l hl => Option.some.inj hl ▸ Listener.sound_init, halive⟩

theorem newRequest (h : AuthorizationInv a) (fut : ℕ) :
    AuthorizationInv (newAuthorizationRequest a fut) := by
  cases hlist : a.listener with
  | none => simpa [newAuthorizationRequest, hlist] using h
  | some l =>
    have halive := h.alive
    rw [Authorization.queue, hlist] at halive
    simp only [newAuthorizationRequest, hlist]
    refine (h.sound l hlist).newRequest_keeps AuthorizationInv
      (fun l => ⟨(l.tryResolve authorizationEffects a.requests).2,
        some (l.tryResolve authorizationEffects a.requests).1⟩) fut h fun _ hinit => ?_
    exact tryResolve hinit halive

end AuthorizationInv

/-- The listener fails while requests wait in its queue. -/
def losesRequests (a : Authorization) : AuthorizationEvent → Bool
  | .stopListener | .listenerError _ => !a.queue.isEmpty
  | _ => false

/-- When a live listener fails its queue is emptied, and the requests stay what they were. -/
theorem AuthorizationInv.fails {a : Authorization} {l : Listener ℕ ℕ} (h : AuthorizationInv a)
    (hlist : a.listener = some l) {r : Listener ℕ ℕ × List AuthorizationRequest}
    (hr : Listener.Fails authorizationEffects l a.requests r) :
    (Authorization.Accounted ⟨r.2, some r.1⟩ ↔ a.queue = []) ∧
      (a.queue = [] → AuthorizationInv ⟨r.2, some r.1⟩) := by
  have hl := h.sound l hlist
  have hsound := hl.fails _ hr
  have hsame : r.2 = a.requests := by
    cases hr with
    | live ec _ hec => exact fail_authorization hec _ _ _
    | failed => rfl
  have hinv (hq : a.queue = []) : AuthorizationInv ⟨r.2, some r.1⟩ := by
    refine ⟨fun l' hl' => Option.some.inj hl' ▸ hsound.1, ?_⟩
    have halive := h.alive
    rw [hq] at halive
    rwa [Authorization.queue, Option.elim_some, hsound.1.eventsList_of_failed hsound.2, hsame]
  refine ⟨⟨fun hacc => ?_, fun hq => (hinv hq).accounted⟩, hinv⟩
  -- The first queued request is in none of the situations afterwards.
  cases hq : a.queue with
  | nil => rfl
  | cons i rest =>
    obtain ⟨p, hp, hwait, -⟩ := h.alive.waits (i := i) (by simp [hq])
    obtain rfl := AuthorizationLife.eq_queued hwait
    have hnone := (hacc i _ (hsame ▸ hp) rfl).situation
    rw [Authorization.queue, Option.elim_some, hsound.1.eventsList_of_failed hsound.2] at hnone
    cases hnone

theorem authorizationStep_iff (a : Authorization) (e : AuthorizationEvent) (a' : Authorization)
    (h : AuthorizationInv a) (hs : authorizationStep a e = some a') :
    (a'.Accounted ↔ losesRequests a e = false) ∧
      (losesRequests a e = false → AuthorizationInv a') := by
  obtain ⟨hallow, hs⟩ := Option.ite_none_left_eq_some.mp hs
  have hguard : authorizationAllows a e = true := by simpa using hallow
  have hkeeps (hn : losesRequests a e = false) (hinv : AuthorizationInv a') :=
    Machine.good_iff_of_inv AuthorizationInv.accounted hn hinv
  cases e with
  | createRequest =>
    cases hs
    exact hkeeps rfl h.create
  | discardRequest i =>
    cases hs
    exact hkeeps rfl (h.update i _ hguard fun p => AuthorizationLife.discard)
  | checkAccess i =>
    cases hs
    exact hkeeps rfl (h.checkAccess hguard)
  | initListener =>
    cases hs
    exact hkeeps rfl h.initListener
  | newRequest fut =>
    cases hs
    exact hkeeps rfl (h.newRequest fut)
  | stopListener =>
    obtain ⟨l, hlist, rfl⟩ := Option.map_eq_some_iff.mp hs
    have hfails := (h.sound l hlist).stop_fails authorizationEffects (s := a.requests)
    simpa [losesRequests] using h.fails hlist hfails
  | listenerError ec =>
    obtain ⟨l, hlist, rfl⟩ := Option.map_eq_some_iff.mp hs
    have hec : ec ≠ .ok := of_decide_eq_true hguard
    have hfails := (h.sound l hlist).setErrorCode_fails authorizationEffects (s := a.requests) hec
    simpa [losesRequests] using h.fails hlist hfails
  | verdict i verdict =>
    cases hs
    exact hkeeps rfl (h.update i _ hguard fun p hp => AuthorizationLife.verdict hp verdict)
  | free i =>
    cases hs
    exact hkeeps rfl (h.update i _ hguard fun p => AuthorizationLife.free)
  | verdictEvent i =>
    cases hs
    exact hkeeps rfl (h.update i _ hguard fun p => AuthorizationLife.verdictEvent)

/-- In a run every checked request is accounted for in every state, exactly if the listener
never fails with requests in its queue. -/
theorem authorization_accounted_iff {evs : List AuthorizationEvent} {a : Authorization}
    (hr : authorization.Run evs a) :
    (∀ t, authorization.Visits evs t → t.Accounted) ↔
      ∀ t e, authorization.Takes evs t e → losesRequests t e = false := by
  have hinit : AuthorizationInv authorization.init :=
    ⟨fun l hl => (by cases hl), Phases.Tracks.nil⟩
  exact hr.good_iff_takes AuthorizationInv Authorization.Accounted
    (fun t e => losesRequests t e = false) hinit hinit.accounted
    fun t e t' hi _ hs => authorizationStep_iff t e t' hi hs

/-- One request is allowed and freed, one is freed without a verdict, and after the
listener has stopped one is denied. -/
theorem authorization_accounted_run :
    (∃ a, authorization.Run
      [.createRequest, .checkAccess 0, .verdictEvent 0, .initListener, .createRequest,
        .createRequest, .checkAccess 1, .checkAccess 2, .newRequest 0, .newRequest 1,
        .verdict 1 true, .verdict 1 false, .free 2, .verdictEvent 2, .verdictEvent 1, .free 1,
        .stopListener, .createRequest, .checkAccess 3, .verdictEvent 3] a ∧
      a.requests.map (·.callbacks) = [[false], [true], [false], [false]] ∧
      a.requests.map (·.freed) = [1, 1, 1, 1]) ∧
    ∀ t, authorization.Visits
      [.createRequest, .checkAccess 0, .verdictEvent 0, .initListener, .createRequest,
        .createRequest, .checkAccess 1, .checkAccess 2, .newRequest 0, .newRequest 1,
        .verdict 1 true, .verdict 1 false, .free 2, .verdictEvent 2, .verdictEvent 1, .free 1,
        .stopListener, .createRequest, .checkAccess 3, .verdictEvent 3] t → t.Accounted := by
  refine ⟨⟨_, Machine.run_of_exec rfl, by decide +kernel, by decide +kernel⟩, ?_⟩
  exact (authorization_accounted_iff (Machine.run_of_exec rfl)).mpr fun t e ht =>
    Machine.takes_eq_false_of_allTaken (by decide +kernel) ht

/-- A request waits on the listener when the application stops it: it gets no verdict, is
not freed and is nowhere any more. -/
theorem stopped_listener_loses_request :
    ∃ a, authorization.Run
      [.initListener, .createRequest, .checkAccess 0, .stopListener] a ∧
      (∃ r, a.requests[0]? = some r ∧ r.checked = true ∧ r.held = false ∧
        r.verdictEvent = false ∧ r.callbacks = [] ∧ r.freed = 0) ∧
      a.queue = [] ∧ ¬ a.Accounted := by
  refine ⟨_, Machine.run_of_exec rfl, ⟨_, rfl, by decide +kernel⟩, rfl, fun hacc => ?_⟩
  have hnone := (hacc 0 _ rfl rfl).situation
  cases hnone

end NabtoDevice
