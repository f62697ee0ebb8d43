import NabtoDevice.Lib.Phases
import NabtoDevice.Lib.Tally
import NabtoDevice.Sanity.Listener
import NabtoDevice.Spec.CoapRequests

/-! The life of a CoAP request of the application, and the queues of the resources taken
together. An operation on one resource only changes how often requests stand in its own
queue. -/

namespace NabtoDevice

inductive ServerRequestLife
  | refused
  | queued
  | held (responses : List (CoapCode × Option String))
  | freed (responses : List (CoapCode × Option String))

namespace ServerRequestLife

def request : ServerRequestLife → ServerRequest
  | refused => (ServerRequest.new false).refuse
  | queued => .new true
  | held responses => { ServerRequest.new true with responses, delivered := true, held := true }
  | freed responses =>
    { ServerRequest.new true with responses, released := 1, wrapperFreed := 1, delivered := true }

def isQueued : ServerRequestLife → Bool
  | queued => true
  | _ => false

variable {p : ServerRequestLife}

theorem eq_queued (h : p.isQueued = true) : p = queued := by
  cases p with
  | queued => rfl
  | refused | held | freed => cases h

theorem respond (h : p.request.held = true) (response : CoapCode × Option String) :
    ∃ p' : ServerRequestLife,
      p'.request = { p.request with responses := p.request.responses ++ [response] } ∧
      p'.isQueued = p.isQueued := by
  cases p with
  | refused | queued | freed => cases h
  | held responses => exact ⟨held (responses ++ [response]), rfl, rfl⟩

theorem free (h : p.request.held = true) :
    ∃ p' : ServerRequestLife,
      p'.request = p.request.deviceRequestFree ∧ p'.isQueued = p.isQueued := by
  cases p with
  | refused | queued | freed => cases h
  | held responses => exact ⟨freed responses, rfl, rfl⟩

end ServerRequestLife

def queuedOn (resources : List CoapResource) (i : ℕ) : ℕ :=
  (resources.map fun res => res.listener.eventsList.count i).sum

/-- `rest` counts the queues of the other resources. -/
theorem queuedOn_split {resources : List CoapResource} {k : ℕ} {res : CoapResource}
    (h : resources[k]? = some res) :
    ∃ rest : ℕ → ℕ, ∀ res' i,
      queuedOn (resources.set k res') i = rest i + res'.listener.eventsList.count i :=
  ⟨queuedOn (resources.eraseIdx k),
    fun res' i => Tally.sum_map_set
      (fun res : CoapResource => res.listener.eventsList.count i) h res'⟩

theorem queuedOn_concat (resources : List CoapResource) (res : CoapResource)
    (h : res.listener.eventsList = []) : queuedOn (resources ++ [res]) = queuedOn resources := by
  funext i
  simp [queuedOn, h]

/-- The requests are in phases of their lives, where the queue of one resource and `rest`
hold those queued. -/
def InHands (rest : ℕ → ℕ) (queue : List ℕ) (d : CoapResourceData) : Prop :=
  Phases.Tracks ServerRequestLife.request ServerRequestLife.isQueued d.requests
    fun i => rest i + queue.count i

theorem InHands.deliver {rest : ℕ → ℕ} {fut item : ℕ} {queue : List ℕ} {d : CoapResourceData}
    (hfuture : d.futureRequest = true) (h : InHands rest (item :: queue) d) :
    InHands rest queue (Listener.deliver coapEffects fut item d) := by
  have hdeliver : (Listener.deliver coapEffects fut item d).requests =
      d.requests.modify item fun r => { r with delivered := true, held := true } := by
    simp [Listener.deliver, coapEffects, coapListenerCallback, hfuture, CoapResourceData.onRequest]
  rw [InHands, hdeliver]
  refine Phases.Tracks.pop h (fun j => ?_) fun p hp => ?_
  · rw [Phases.count_cons, Nat.add_assoc]
  · obtain rfl := ServerRequestLife.eq_queued hp
    exact ⟨.held [], rfl, rfl⟩

/-- What a failing listener does with its queue neither releases a request nor gives it to
the application. -/
theorem drain_coap {ec : NpErrorCode} (hec : ec ≠ .ok) (items : List ℕ) (d : CoapResourceData) :
    (Listener.drain coapEffects ec items d).requests.map (fun r => (r.released, r.held)) =
      d.requests.map fun r => (r.released, r.held) := by
  induction items generalizing d with
  | nil => rfl
  | cons item items ih =>
    have hcall : (coapEffects.cb ⟨if ec = .aborted then .stopped else ec, none, some item⟩ d).2 =
        { d with requests := d.requests.modify item (·.unavailable) } := by
      obtain ⟨hok, haborted⟩ := Listener.drain_code_ne hec
      revert hok haborted
      generalize (if ec = .aborted then NpErrorCode.stopped else ec) = ec'
      intro hok haborted
      cases ec' <;> first | exact absurd rfl hok | exact absurd rfl haborted | rfl
    refine (ih _).trans ?_
    simp only [hcall]
    apply List.ext_getElem?
    intro j
    rw [List.getElem?_map, List.getElem?_map, List.getElem?_modify]
    cases d.requests[j]? with
    | none => rfl
    | some r => by_cases hj : item = j <;> simp [hj, ServerRequest.unavailable,
        ServerRequest.errorResponse, ServerRequest.freeWrapper]

theorem fail_coap {ec : NpErrorCode} (hec : ec ≠ .ok) (items : List ℕ) (fut : Option ℕ)
    (d : CoapResourceData) :
    (Listener.fail coapEffects items fut ec d).requests.map (fun r => (r.released, r.held)) =
      d.requests.map fun r => (r.released, r.held) := by
  cases fut <;> exact drain_coap hec items d

end NabtoDevice
