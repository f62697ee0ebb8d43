import NabtoDevice.Sanity.PasswordRequests

/-! Every `p2p/pwd-auth/1` request is on its way to the application, in its hands, or
answered and freed once. Two things break this: the listener fails with requests in its
queue, since its callback does not answer them, and the password request handler fails,
since `nc_spake2_handle_coap_1` does not look at what it returns. -/

namespace NabtoDevice

structure PwdAuthAccounted (queue : List ℕ) (i : ℕ) (r : PwdAuthRequest) : Prop where
  /-- Queued, held by the application and not handled, or answered: exactly one of them,
  and once. -/
  situation : queue.count i + (if r.held && !r.handled then 1 else 0) + r.responses.length = 1
  freed : r.coapFreed = r.responses.length ∧ r.passwordFreed = r.responses.length

def PasswordRequests.Accounted (p : PasswordRequests) : Prop :=
  ∀ i r, p.core.requests[i]? = some r → PwdAuthAccounted p.queue i r

structure PasswordInv (p : PasswordRequests) : Prop where
  sound : ∀ l, p.listener = some l → l.Sound
  /-- The core has the handler while the listener is live. -/
  handler : p.core.passwordRequestHandler = p.listener.any (·.ec = .ok)
  underway : Underway p.queue p.core

theorem PasswordInv.accounted {p : PasswordRequests} (h : PasswordInv p) : p.Accounted := by
  intro i r hr
  obtain ⟨life, rfl, hq⟩ := h.underway.phase i r hr
  cases life with
  | queued =>
    have hone : p.queue.count i = 1 := hq
    exact ⟨by rw [hone]; rfl, rfl, rfl⟩
  | held =>
    have hnone : p.queue.count i = 0 := hq
    exact ⟨by rw [hnone]; rfl, rfl, rfl⟩
  | answered response handled kept marked =>
    have hnone : p.queue.count i = 0 := hq
    refine ⟨?_, rfl, rfl⟩
    have hmarked : (kept && !handled) = false := by
      cases kept with
      | false => rfl
      | true => simp [marked rfl]
    simp [PasswordLife.request, PwdAuthRequest.finish, PwdAuthRequest.new, hnone, hmarked]

namespace PasswordInv

variable {p : PasswordRequests}

theorem update (h : PasswordInv p) (i : ℕ) (f : PwdAuthRequest → PwdAuthRequest)
    (hi : p.core.requests[i]?.any (·.held) = true)
    (hlife : ∀ life : PasswordLife, life.request.held = true →
      ∃ life' : PasswordLife, life'.request = f life.request ∧ life'.isQueued = life.isQueued) :
    PasswordInv { p with core.requests := p.core.requests.modify i f } := by
  refine ⟨h.sound, h.handler, Phases.Tracks.update h.underway fun life hr => hlife life ?_⟩
  rw [hr] at hi
  exact hi

theorem tryResolve {l : Listener ℕ ℕ} {m : PasswordModule} (hl : l.Sound) (hec : l.ec = .ok)
    (hm : m.passwordRequestHandler = true) (h : Underway l.eventsList m) :
    PasswordInv ⟨(l.tryResolve passwordEffects m).2, some (l.tryResolve passwordEffects m).1⟩ := by
  refine ⟨fun l' hl' => ?_, ?_,
    hl.tryResolve_keeps _ (fun fut item rest _ => Underway.deliver fut item rest _) h⟩
  · obtain rfl := Option.some.inj hl'
    exact hl.tryResolve _
  · rcases Listener.tryResolve_cases passwordEffects (s := m) (hl.live hec) with
      heq | ⟨fut, item, rest, -, -, heq⟩
    · rw [heq]
      simp [hm, hec]
    · rw [heq]
      simpa [Listener.deliver, passwordEffects, passwordListenerResolveEvent, hec] using hm

theorem refuse (h : PasswordInv p) (response : CoapResponse) :
    PasswordInv { p with
      core.requests := p.core.requests ++ [PwdAuthRequest.new.finish response] } :=
  ⟨h.sound, h.handler, Phases.Tracks.create h.underway (PasswordLife.refused response) rfl⟩

/-- A request that is accepted gets to the queue, since the handler has a live listener. -/
theorem accept (h : PasswordInv p) (hhandler : p.core.passwordRequestHandler = true) :
    PasswordInv (passwordRequestHandler { p with core.requests := p.core.requests ++ [.new] }
      p.core.requests.length true).2 := by
  have hlive := h.handler.symm.trans hhandler
  cases hlist : p.listener with
  | none => simp [hlist] at hlive
  | some l =>
    have hl := h.sound l hlist
    have hec : l.ec = .ok := by simpa [hlist] using hlive
    have hunderway := h.underway
    rw [PasswordRequests.queue, hlist] at hunderway
    simp only [passwordRequestHandler, hl.addEvent_live _ hec]
    exact tryResolve (hl.resolved hec) hec hhandler
      (Phases.Tracks.create_waiting hunderway PasswordLife.queued rfl (Phases.count_concat _ _))

theorem initListener (h : PasswordInv p) : PasswordInv (passwordInitListener p) := by
  cases hhandler : p.core.passwordRequestHandler with
  | true => simpa [passwordInitListener, hhandler] using h
  | false =>
    -- The listener before it has failed, so nothing is queued.
    have hqueue : p.queue = [] := by
      have hfailed := h.handler.symm.trans hhandler
      cases hlist : p.listener with
      | none => simp [PasswordRequests.queue, hlist]
      | some l =>
        have hec : l.ec ≠ .ok := by simpa [hlist] using hfailed
        simp [PasswordRequests.queue, hlist, (h.sound l hlist).eventsList_of_failed hec]
    have hunderway := h.underway
    rw [hqueue] at hunderway
    simp only [passwordInitListener, hhandler]
    exact ⟨fun l hl => Option.some.inj hl ▸ Listener.sound_init, rfl, hunderway⟩

theorem newRequest (h : PasswordInv p) (fut : ℕ) : PasswordInv (newPasswordRequest p fut) := by
  cases hlist : p.listener with
  | none => simpa [newPasswordRequest, hlist] using h
  | some l =>
    have hunderway := h.underway
    have hhandler := h.handler
    rw [PasswordRequests.queue, hlist] at hunderway
    rw [hlist] at hhandler
    simp only [newPasswordRequest, hlist]
    refine (h.sound l hlist).newRequest_keeps PasswordInv
      (fun l => ⟨(l.tryResolve passwordEffects p.core).2,
        some (l.tryResolve passwordEffects p.core).1⟩) fut h fun hec hinit => ?_
    exact tryResolve hinit hec (by simpa [hec] using hhandler) hunderway

end PasswordInv

theorem pwdAuth1Response_handler {handler : Bool} {conn : PasswordAuthentication}
    {request : PwdAuth1Request} {values : List UInt8 × List UInt8}
    (h : pwdAuth1Response handler conn request = .ok values) : handler = true := by
  cases handler with
  | true => rfl
  | false => cases h

/-- The listener fails with requests in its queue, or there is no memory for a request that
passed the checks of `nc_spake2_handle_coap_1`. -/
def losesPasswordRequest (p : PasswordRequests) : PasswordRequestsEvent → Bool
  | .stopListener | .listenerError _ => !p.queue.isEmpty
  | .pwdAuth1 conn request allocated =>
    !allocated &&
      (pwdAuth1Response p.core.passwordRequestHandler conn.countRequest request).isOk
  | _ => false

namespace PasswordInv

variable {p : PasswordRequests}

theorem fails {l : Listener ℕ ℕ} (h : PasswordInv p) (hlist : p.listener = some l)
    {r : Listener ℕ ℕ × PasswordModule} (hr : Listener.Fails passwordEffects l p.core r) :
    (PasswordRequests.Accounted ⟨r.2, some r.1⟩ ↔ p.queue = []) ∧
      (p.queue = [] → PasswordInv ⟨r.2, some r.1⟩) := by
  have hl := h.sound l hlist
  have hsound := hl.fails _ hr
  have hsame : r.2 = { p.core with passwordRequestHandler := false } := by
    cases hr with
    | live ec _ hec => exact fail_password hec _ _ _
    | failed ec hne _ =>
      have hhandler := h.handler
      simp only [hlist, Option.any_some, hne, decide_false] at hhandler
      rw [← hhandler]
  have hinv (hq : p.queue = []) : PasswordInv ⟨r.2, some r.1⟩ := by
    refine ⟨fun l' hl' => Option.some.inj hl' ▸ hsound.1, ?_, ?_⟩
    · simp [hsame, hsound.2]
    · have hunderway := h.underway
      rw [hq] at hunderway
      rwa [PasswordRequests.queue, Option.elim_some, hsound.1.eventsList_of_failed hsound.2, hsame]
  refine ⟨⟨fun hacc => ?_, fun hq => (hinv hq).accounted⟩, hinv⟩
  -- The first queued request is in none of the situations afterwards.
  cases hq : p.queue with
  | nil => rfl
  | cons i rest =>
    obtain ⟨life, hp, hwait, -⟩ := h.underway.waits (i := i) (by simp [hq])
    obtain rfl := PasswordLife.eq_queued hwait
    have hlost : r.2.requests[i]? = some PasswordLife.queued.request := by
      rw [hsame]
      exact hp
    have hnone := (hacc i _ hlost).situation
    rw [PasswordRequests.queue, Option.elim_some, hsound.1.eventsList_of_failed hsound.2] at hnone
    cases hnone

/-- A request the handler could not take is nowhere afterwards. -/
theorem not_accounted_lost (h : PasswordInv p) :
    ¬ PasswordRequests.Accounted { p with core.requests := p.core.requests ++ [.new] } := by
  intro hacc
  have hnone := (hacc p.core.requests.length .new List.getElem?_concat_length).situation
  have hqueue := h.underway.outside _ (List.getElem?_eq_none (Nat.le_refl _))
  have hcount : PasswordRequests.queue { p with core.requests := p.core.requests ++ [.new] } =
      p.queue :=
    rfl
  rw [hcount, hqueue] at hnone
  cases hnone

end PasswordInv

theorem passwordRequestsStep_iff (p : PasswordRequests) (e : PasswordRequestsEvent)
    (p' : PasswordRequests) (h : PasswordInv p) (hs : passwordRequestsStep p e = some p') :
    (p'.Accounted ↔ losesPasswordRequest p e = false) ∧
      (losesPasswordRequest p e = false → PasswordInv p') := by
  obtain ⟨hallow, hs⟩ := Option.ite_none_left_eq_some.mp hs
  have hguard : passwordRequestsAllows p e = true := by simpa using hallow
  have hkeeps (hn : losesPasswordRequest p e = false) (hinv : PasswordInv p') :=
    Machine.good_iff_of_inv PasswordInv.accounted hn hinv
  cases e with
  | pwdAuth1 conn request allocated =>
    cases hs
    cases hresponse : pwdAuth1Response p.core.passwordRequestHandler conn.countRequest request with
    | error response =>
      simp only [handlePwdAuth1, hresponse] at hkeeps ⊢
      exact hkeeps (by simp [losesPasswordRequest, hresponse, Except.isOk, Except.toBool])
        (h.refuse response)
    | ok values =>
      simp only [handlePwdAuth1, hresponse] at hkeeps ⊢
      cases allocated with
      | true => exact hkeeps rfl (h.accept (pwdAuth1Response_handler hresponse))
      | false =>
        have hloses : losesPasswordRequest p (.pwdAuth1 conn request false) = true := by
          simp [losesPasswordRequest, hresponse, Except.isOk, Except.toBool]
        rw [hloses]
        refine ⟨⟨fun hacc => absurd hacc h.not_accounted_lost, fun hn => ?_⟩,
          fun hn => ?_⟩ <;> cases hn
  | initListener =>
    cases hs
    exact hkeeps rfl h.initListener
  | newRequest fut =>
    cases hs
    exact hkeeps rfl (h.newRequest fut)
  | stopListener =>
    obtain ⟨l, hlist, rfl⟩ := Option.map_eq_some_iff.mp hs
    have hfails := (h.sound l hlist).stop_fails passwordEffects (s := p.core)
    simpa [losesPasswordRequest] using h.fails hlist hfails
  | listenerError ec =>
    obtain ⟨l, hlist, rfl⟩ := Option.map_eq_some_iff.mp hs
    have hec : ec ≠ .ok := of_decide_eq_true hguard
    have hfails := (h.sound l hlist).setErrorCode_fails passwordEffects (s := p.core) hec
    simpa [losesPasswordRequest] using h.fails hlist hfails
  | setPassword i hasConnection r =>
    cases hs
    exact hkeeps rfl (h.update i _ hguard fun life hl => PasswordLife.setPassword hl _)
  | free i hasConnection r =>
    cases hs
    exact hkeeps rfl (h.update i _ hguard fun life hl => PasswordLife.free hl _)

/-- In a run every request is accounted for in every state, exactly if the listener never
fails with requests in its queue and the handler never fails. -/
theorem password_requests_accounted_iff {evs : List PasswordRequestsEvent} {p : PasswordRequests}
    (hr : passwordRequests.Run evs p) :
    (∀ t, passwordRequests.Visits evs t → t.Accounted) ↔
      ∀ t e, passwordRequests.Takes evs t e → losesPasswordRequest t e = false := by
  have hinit : PasswordInv passwordRequests.init :=
    ⟨fun l hl => (by cases hl), rfl, Phases.Tracks.nil⟩
  exact hr.good_iff_takes PasswordInv PasswordRequests.Accounted
    (fun t e => losesPasswordRequest t e = false) hinit hinit.accounted
    fun t e t' hi _ hs => passwordRequestsStep_iff t e t' hi hs

def pwdAuth1Sample : PwdAuth1Request :=
  { payload := some [], username := .textString [], t := .byteString [] }

/-- Requests come before there is a listener, while it is live and after it was stopped;
one password is set, and one request is freed without. -/
theorem password_requests_accounted_run :
    (∃ p, passwordRequests.Run
      [.pwdAuth1 .cleared pwdAuth1Sample true, .initListener,
        .pwdAuth1 .cleared pwdAuth1Sample true, .pwdAuth1 .cleared pwdAuth1Sample true,
        .newRequest 0, .newRequest 1, .setPassword 1 true ⟨true, true, true, none, [1]⟩,
        .free 1 true ⟨true, true, true, none, []⟩, .free 2 false ⟨true, true, true, none, []⟩,
        .stopListener, .pwdAuth1 .cleared pwdAuth1Sample true, .initListener] p ∧
      p.core.requests.map (·.responses) = [[coapErrorResponse 4 4], [coapCreated [1]],
        [coapErrorResponse 5 0], [coapErrorResponse 4 4]]) ∧
    ∀ t, passwordRequests.Visits
      [.pwdAuth1 .cleared pwdAuth1Sample true, .initListener,
        .pwdAuth1 .cleared pwdAuth1Sample true, .pwdAuth1 .cleared pwdAuth1Sample true,
        .newRequest 0, .newRequest 1, .setPassword 1 true ⟨true, true, true, none, [1]⟩,
        .free 1 true ⟨true, true, true, none, []⟩, .free 2 false ⟨true, true, true, none, []⟩,
        .stopListener, .pwdAuth1 .cleared pwdAuth1Sample true, .initListener] t →
      t.Accounted := by
  refine ⟨⟨_, Machine.run_of_exec rfl, by decide +kernel⟩, ?_⟩
  exact (password_requests_accounted_iff (Machine.run_of_exec rfl)).mpr fun t e ht =>
    Machine.takes_eq_false_of_allTaken (by decide +kernel) ht

/-- Two requests that stay without an answer: one was queued when the listener was stopped,
for the other there was no memory in the password request handler. -/
theorem password_requests_unanswered :
    (∃ p, passwordRequests.Run
      [.initListener, .pwdAuth1 .cleared pwdAuth1Sample true, .stopListener] p ∧
      p.core.requests = [.new] ∧ p.queue = [] ∧ ¬ p.Accounted) ∧
    ∃ p, passwordRequests.Run
      [.initListener, .pwdAuth1 .cleared pwdAuth1Sample false] p ∧
      p.core.requests = [.new] ∧ p.queue = [] ∧ ¬ p.Accounted := by
  refine ⟨⟨_, Machine.run_of_exec rfl, rfl, rfl, fun hacc => ?_⟩,
    _, Machine.run_of_exec rfl, rfl, rfl, fun hacc => ?_⟩
  · have hnone := (hacc 0 _ rfl).situation
    cases hnone
  · have hnone := (hacc 0 _ rfl).situation
    cases hnone

end NabtoDevice
