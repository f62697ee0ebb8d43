import NabtoDevice.Sanity.CoapRequests

/-! Every CoAP request given to a resource of the application is queued, held by the
application, or was released once. This holds as long as no listener fails with requests
in its queue: those get an error response and their wrapper is freed, but the request of
the CoAP server is not released. -/

namespace NabtoDevice

structure ServerRequestAccounted (queued : ℕ) (r : ServerRequest) : Prop where
  /-- Queued, held by the application or released: exactly one of them, and once. -/
  situation : queued + (if r.held then 1 else 0) + r.released = 1
  /-- A request that never got to the application was released after an error response. -/
  answered : r.delivered = false → r.released ≠ 0 →
    ∃ response ∈ r.responses, 4 ≤ response.1.cls

def CoapRequests.Accounted (c : CoapRequests) : Prop :=
  ∀ i r, c.requests[i]? = some r → ServerRequestAccounted (queuedOn c.resources i) r

/-- A future that waits has a place for its request, and a resource is only known to the
CoAP server while its listener is live. -/
structure CoapResource.Sound (res : CoapResource) : Prop where
  listener : res.listener.Sound
  future : res.listener.fut.isSome = true → res.futureRequest = true
  added : res.added = true → res.listener.ec = .ok

structure CoapRequestsInv (c : CoapRequests) : Prop where
  sound : ∀ (k : ℕ) res, c.resources[k]? = some res → res.Sound
  inHands : Phases.Tracks ServerRequestLife.request ServerRequestLife.isQueued c.requests
    (queuedOn c.resources)

theorem CoapRequestsInv.accounted {c : CoapRequests} (h : CoapRequestsInv c) : c.Accounted := by
  intro i r hr
  obtain ⟨p, rfl, hq⟩ := h.inHands.phase i r hr
  rw [hq]
  cases p with
  | refused => exact ⟨rfl, fun _ _ => ⟨(⟨5, 0⟩, some "Insufficient resources"), by simp [
      ServerRequestLife.request, ServerRequest.refuse, ServerRequest.errorResponse,
      ServerRequest.requestFree, ServerRequest.new], by decide⟩⟩
  | queued => exact ⟨rfl, fun _ hr => absurd rfl hr⟩
  | held | freed => exact ⟨rfl, fun hd => (by cases hd)⟩

namespace CoapRequestsInv

variable {c : CoapRequests} {k : ℕ} {res : CoapResource}

theorem update (h : CoapRequestsInv c) (i : ℕ) (f : ServerRequest → ServerRequest)
    (hi : c.requests[i]?.any (·.held) = true)
    (hlife : ∀ p : ServerRequestLife, p.request.held = true →
      ∃ p' : ServerRequestLife, p'.request = f p.request ∧ p'.isQueued = p.isQueued) :
    CoapRequestsInv { c with requests := c.requests.modify i f } := by
  refine ⟨h.sound, Phases.Tracks.update h.inHands fun p hr => hlife p ?_⟩
  rw [hr] at hi
  exact hi

theorem at_resource (h : CoapRequestsInv c) (hk : c.resources[k]? = some res) :
    ∃ rest : ℕ → ℕ, (∀ i, queuedOn c.resources i = rest i + res.listener.eventsList.count i) ∧
      (∀ r i, queuedOn (c.store k r).resources i = rest i + r.1.eventsList.count i) ∧
      ∀ r : Listener ℕ ℕ × CoapResourceData, CoapResource.Sound
        ⟨r.1, r.2.futureRequest, r.2.added⟩ →
        InHands rest r.1.eventsList r.2 → CoapRequestsInv (c.store k r) := by
  obtain ⟨rest, hrest⟩ := queuedOn_split hk
  have hstored : ∀ r i, queuedOn (c.store k r).resources i = rest i + r.1.eventsList.count i :=
    fun r => hrest _
  refine ⟨rest, fun i => ?_, hstored, fun r hsound hhands => ⟨fun j res' hj => ?_, ?_⟩⟩
  · obtain ⟨hlt, rfl⟩ := List.getElem?_eq_some_iff.mp hk
    rw [← hrest, List.set_getElem_self]
  · rw [CoapRequests.store, List.getElem?_set] at hj
    split_ifs at hj with hkj hlen
    · exact Option.some.inj hj ▸ hsound
    · exact h.sound j res' hj
  · rw [funext (hstored r)]
    exact hhands

theorem sound_tryResolve {l : Listener ℕ ℕ} {d : CoapResourceData}
    (h : CoapResource.Sound ⟨l, d.futureRequest, d.added⟩) (hec : l.ec = .ok) :
    CoapResource.Sound ⟨(l.tryResolve coapEffects d).1,
      (l.tryResolve coapEffects d).2.futureRequest, (l.tryResolve coapEffects d).2.added⟩ := by
  have hl := h.listener
  have hsound := hl.tryResolve coapEffects (s := d)
  rcases Listener.tryResolve_cases coapEffects (s := d) (hl.live hec) with
    heq | ⟨fut, item, queue, -, -, heq⟩
  · rw [heq]
    exact h
  · rw [heq] at hsound ⊢
    exact ⟨hsound, fun hfut => (by cases hfut), fun _ => hec⟩

theorem tryResolve {l : Listener ℕ ℕ} {d : CoapResourceData} {rest : ℕ → ℕ}
    (h : CoapResource.Sound ⟨l, d.futureRequest, d.added⟩) (hhands : InHands rest l.eventsList d) :
    InHands rest (l.tryResolve coapEffects d).1.eventsList (l.tryResolve coapEffects d).2 := by
  refine h.listener.tryResolve_keeps _ (fun fut item queue hfut hq => ?_) hhands
  exact hq.deliver (h.future (Option.isSome_iff_exists.mpr ⟨fut, hfut⟩))

theorem initListener (h : CoapRequestsInv c) : CoapRequestsInv (coapInitListener c) := by
  refine ⟨fun k res hk => ?_, ?_⟩
  · rcases Nat.lt_trichotomy k c.resources.length with hlt | rfl | hgt
    · exact h.sound k res (by rwa [coapInitListener, List.getElem?_append_left hlt] at hk)
    · rw [coapInitListener, List.getElem?_concat_length] at hk
      cases hk
      exact ⟨Listener.sound_init, fun hfut => (by cases hfut), fun _ => rfl⟩
    · rw [coapInitListener, List.getElem?_eq_none (by simp; omega)] at hk
      cases hk
  · rw [coapInitListener, queuedOn_concat _ _ rfl]
    exact h.inHands

theorem handler (h : CoapRequestsInv c) (hk : c.resources[k]? = some res)
    (hadded : res.added = true)
    (allocated : Bool) : CoapRequestsInv (coapResourceHandler c k res allocated) := by
  cases allocated with
  | false => exact ⟨h.sound, Phases.Tracks.create h.inHands ServerRequestLife.refused rfl⟩
  | true =>
    obtain ⟨rest, hqueued, -, hstore⟩ := h.at_resource hk
    have hsound := h.sound k res hk
    have hec := hsound.added hadded
    have hnew : Phases.Tracks ServerRequestLife.request ServerRequestLife.isQueued
        (c.requests ++ [.new true])
        fun i => rest i + (res.listener.eventsList ++ [c.requests.length]).count i := by
      refine Phases.Tracks.create_waiting h.inHands ServerRequestLife.queued rfl fun j => ?_
      rw [hqueued, Phases.count_concat, Nat.add_assoc]
    have hqueue : CoapResource.Sound ⟨{ res.listener with
        eventsList := res.listener.eventsList ++
          [c.requests.length] }, res.futureRequest, res.added⟩ :=
      ⟨hsound.listener.resolved hec, hsound.future, fun _ => hec⟩
    simp only [coapResourceHandler, hsound.listener.addEvent_live _ hec]
    exact hstore _ (sound_tryResolve hqueue hec) (tryResolve hqueue hnew)

theorem newRequest (h : CoapRequestsInv c) (hk : c.resources[k]? = some res) (fut : ℕ) :
    CoapRequestsInv (newCoapRequest c k res fut) := by
  obtain ⟨rest, hqueued, -, hstore⟩ := h.at_resource hk
  have hhands : InHands rest res.listener.eventsList { c.data res with futureRequest := true } := by
    have hhands := h.inHands
    rwa [funext hqueued] at hhands
  unfold newCoapRequest
  refine (h.sound k res hk).listener.newRequest_keeps CoapRequestsInv
    (fun l => c.store k (l.tryResolve coapEffects { c.data res with futureRequest := true })) fut h
    fun hec hl => ?_
  have hinit : CoapResource.Sound ⟨{ res.listener with fut := some fut }, true, res.added⟩ :=
    ⟨hl, fun _ => rfl, fun _ => hec⟩
  exact hstore _ (sound_tryResolve (d := { c.data res with futureRequest := true }) hinit hec)
    (tryResolve hinit hhands)

end CoapRequestsInv

def leaksRequests (c : CoapRequests) : CoapRequestsEvent → Bool
  | .stopListener k | .listenerError k _ =>
    c.resources[k]?.any fun res => !res.listener.eventsList.isEmpty
  | _ => false

theorem CoapRequestsInv.fails {c : CoapRequests} {k : ℕ} {res : CoapResource}
    (h : CoapRequestsInv c) (hk : c.resources[k]? = some res)
    {r : Listener ℕ ℕ × CoapResourceData}
    (hr : Listener.Fails coapEffects res.listener (c.data res) r) :
    ((c.store k r).Accounted ↔ res.listener.eventsList = []) ∧
      (res.listener.eventsList = [] → CoapRequestsInv (c.store k r)) := by
  obtain ⟨rest, hqueued, hstored, hstore⟩ := h.at_resource hk
  have hsound := h.sound k res hk
  have hfailed := hsound.listener.fails _ hr
  have hhands := h.inHands
  rw [funext hqueued] at hhands
  cases hr with
  | failed ec hne hec =>
    have hempty := hsound.listener.eventsList_of_failed hne
    have hadded : res.added = false := by
      cases hadd : res.added with
      | false => rfl
      | true => exact absurd (hsound.added hadd) hne
    have hinv := hstore ({ res.listener with ec }, c.data res)
      ⟨hfailed.1, hsound.future, fun hadd => (by simp [CoapRequests.data, hadded] at hadd)⟩ hhands
    exact ⟨⟨fun _ => hempty, fun _ => hinv.accounted⟩, fun _ => hinv⟩
  | live ec _ hec =>
    have hinv (hq : res.listener.eventsList = []) : CoapRequestsInv (c.store k
        ({ res.listener with ec, eventsList := [], fut := none, cb := false },
          Listener.fail coapEffects res.listener.eventsList res.listener.fut ec (c.data res))) := by
      rw [hq] at hhands ⊢
      refine hstore _ ⟨hfailed.1, fun hfut => (by cases hfut), fun hadd => ?_⟩ ?_
      · cases hfut : res.listener.fut <;> rw [hfut] at hadd <;> cases hadd
      · cases hfut : res.listener.fut <;> exact hhands
    refine ⟨⟨fun hacc => ?_, fun hq => (hinv hq).accounted⟩, hinv⟩
    -- The first queued request is neither released nor with the application afterwards.
    cases hq : res.listener.eventsList with
    | nil => rfl
    | cons i queue =>
      obtain ⟨p, hp, hwait, hone⟩ := hhands.waits (i := i) (by simp [hq])
      obtain rfl := ServerRequestLife.eq_queued hwait
      have hkept := congrArg (·[i]?)
        (fail_coap hec res.listener.eventsList res.listener.fut (c.data res))
      simp only [List.getElem?_map, CoapRequests.data, hp, Option.map_some] at hkept
      obtain ⟨r, hr, hflags⟩ := Option.map_eq_some_iff.mp hkept
      obtain ⟨hreleased, hheld⟩ := Prod.mk.inj hflags
      have hsituation := (hacc i r hr).situation
      rw [hstored, hreleased, hheld] at hsituation
      rw [hq, List.count_cons_self] at hone
      simp [ServerRequestLife.request, ServerRequest.new] at hsituation
      omega

theorem coapRequestsStep_iff (c : CoapRequests) (e : CoapRequestsEvent) (c' : CoapRequests)
    (h : CoapRequestsInv c) (hs : coapRequestsStep c e = some c') :
    (c'.Accounted ↔ leaksRequests c e = false) ∧
      (leaksRequests c e = false → CoapRequestsInv c') := by
  obtain ⟨hallow, hs⟩ := Option.ite_none_left_eq_some.mp hs
  have hguard : coapRequestsAllows c e = true := by simpa using hallow
  have hkeeps (hn : leaksRequests c e = false) (hinv : CoapRequestsInv c') :=
    Machine.good_iff_of_inv CoapRequestsInv.accounted hn hinv
  cases e with
  | initListener =>
    cases hs
    exact hkeeps rfl h.initListener
  | request k allocated =>
    obtain ⟨res, hk, rfl⟩ := Option.map_eq_some_iff.mp hs
    have hadded : res.added = true := by simpa [coapRequestsAllows, hk] using hguard
    exact hkeeps rfl (h.handler hk hadded allocated)
  | newRequest k fut =>
    obtain ⟨res, hk, rfl⟩ := Option.map_eq_some_iff.mp hs
    exact hkeeps rfl (h.newRequest hk fut)
  | stopListener k =>
    obtain ⟨res, hk, rfl⟩ := Option.map_eq_some_iff.mp hs
    have hfails := (h.sound k res hk).listener.stop_fails coapEffects (s := c.data res)
    simpa [leaksRequests, hk] using h.fails hk hfails
  | listenerError k ec =>
    obtain ⟨res, hk, rfl⟩ := Option.map_eq_some_iff.mp hs
    have hec : ec ≠ .ok := of_decide_eq_true hguard
    have hfails := (h.sound k res hk).listener.setErrorCode_fails coapEffects (s := c.data res) hec
    simpa [leaksRequests, hk] using h.fails hk hfails
  | respond i code message =>
    cases hs
    exact hkeeps rfl (h.update i _ hguard fun p hp => ServerRequestLife.respond hp (code, message))
  | free i =>
    cases hs
    exact hkeeps rfl (h.update i _ hguard fun p => ServerRequestLife.free)

/-- In a run every CoAP request is accounted for in every state, exactly if no listener
fails with requests in its queue. -/
theorem coap_requests_accounted_iff {evs : List CoapRequestsEvent} {c : CoapRequests}
    (hr : coapRequests.Run evs c) :
    (∀ t, coapRequests.Visits evs t → t.Accounted) ↔
      ∀ t e, coapRequests.Takes evs t e → leaksRequests t e = false := by
  have hinit : CoapRequestsInv coapRequests.init := by
    refine ⟨fun k res hk => ?_, Phases.Tracks.nil⟩
    simp [coapRequests] at hk
  exact hr.good_iff_takes CoapRequestsInv CoapRequests.Accounted
    (fun t e => leaksRequests t e = false) hinit hinit.accounted
    fun t e t' hi _ hs => coapRequestsStep_iff t e t' hi hs

/-- Two resources: one request is answered by the application, for one there was no memory,
and one still waits when the other resource's listener is stopped. -/
theorem coap_requests_accounted_run :
    (∃ c, coapRequests.Run
      [.initListener, .initListener, .request 0 true, .request 1 true, .request 0 false,
        .newRequest 0 7, .respond 0 ⟨2, 5⟩ none, .free 0, .stopListener 0, .newRequest 1 8,
        .request 1 true] c ∧
      c.requests.map (fun r => (r.released, r.held)) =
        [(1, false), (0, true), (1, false), (0, false)] ∧
      queuedOn c.resources 3 = 1) ∧
    ∀ t, coapRequests.Visits
      [.initListener, .initListener, .request 0 true, .request 1 true, .request 0 false,
        .newRequest 0 7, .respond 0 ⟨2, 5⟩ none, .free 0, .stopListener 0, .newRequest 1 8,
        .request 1 true] t → t.Accounted := by
  refine ⟨⟨_, Machine.run_of_exec rfl, by decide +kernel, by decide +kernel⟩, ?_⟩
  exact (coap_requests_accounted_iff (Machine.run_of_exec rfl)).mpr fun t e ht =>
    Machine.takes_eq_false_of_allTaken (by decide +kernel) ht

/-- A request is queued when its listener is stopped: it gets an error response, but the
request of the CoAP server is never released. -/
theorem stopped_listener_leaks_request :
    ∃ c, coapRequests.Run [.initListener, .request 0 true, .stopListener 0] c ∧
      (∃ r, c.requests[0]? = some r ∧ r.responses = [(⟨5, 3⟩, some "Handler unavailable")] ∧
        r.wrapperFreed = 1 ∧ r.held = false ∧ r.released = 0) ∧
      queuedOn c.resources 0 = 0 ∧ ¬ c.Accounted := by
  refine ⟨_, Machine.run_of_exec rfl, ⟨_, rfl, by decide +kernel⟩, rfl, fun hacc => ?_⟩
  have hnone := (hacc 0 _ rfl).situation
  cases hnone

end NabtoDevice
