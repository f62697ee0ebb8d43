import NabtoDevice.Spec.AttachRequests

/-! How the requests of the attach procedure are completed. The handler of an upload of server
connect tokens asks for the code of a response it has not got when the connection was removed;
the handlers of the other two requests look first. -/

namespace NabtoDevice

variable {ctx : NcAttachContext}

/-- The attacher completes a request as its handler does and runs the callback. -/
theorem coapRequestDone_handled {i : ℕ} {r : CoapClientRequest} (hi : ctx.requests[i]? = some r)
    (hstored : storedCallback ctx r.kind = true) (res : Option CoapClientResponse)
    (env : AttacherEnv) :
    let handled := requestHandled r.kind { ctx with requests := ctx.requests.eraseIdx i } 0
      (responseOf r res)
    coapRequestDone ctx i res env =
      some (handled.calls.foldl (fun c call => runAttachCallback c env call) handled.ctx) := by
  obtain ⟨kind, removed⟩ := r
  simp only [coapRequestDone, hi]
  generalize hres : (if removed = true then none else res) = answer
  have hanswer : responseOf ⟨kind, removed⟩ res = answer := hres
  rw [hanswer]
  cases kind with
  | attachStart =>
    have hcb : ctx.startCallback = true := hstored
    simp only [hcb, if_true, requestHandled, coapAttachStartHandled, List.foldl_cons,
      List.foldl_nil]
    rfl
  | sctUpload scts =>
    obtain ⟨cb, hcb⟩ := Option.isSome_iff_exists.mp hstored
    simp only [hcb, Option.map_some, requestHandled, sctRequestHandled]
    cases cb <;> cases hok : ncCoapIsStatusOk ((answer.map (·.code)).getD 0) <;>
      simp [sctRequestHandler, runAttachCallback, hok]
  | attachEnd =>
    have hcb : ctx.endCallback = true := hstored
    simp only [hcb, if_true, requestHandled, coapAttachEndHandled, List.foldl_cons, List.foldl_nil]
    cases answer with
    | none => rfl
    | some r =>
      cases hok : ncCoapIsStatusOk r.code <;> simp [coapAttachEndHandler, runAttachCallback, hok]

def AttachCallback.isError : AttachCallback → Bool
  | .attachStart status => decide (status = .error)
  | .sct _ status | .attachEnd status => decide (status ≠ .ok)

def startsAgain (ctx : NcAttachContext) : CoapRequestKind → Bool
  | .attachStart => (ncAttacherAttachStartRequest ctx {}).isSome
  | .sctUpload _ =>
    match ncAttacherSctUpload ctx .attachSct {} with
    | .failed => false
    | .noOperation | .started _ => true
  | .attachEnd => (ncAttacherAttachEndRequest ctx {}).isSome

/-- A handler deals with the outcome `res` of a request. -/
structure HandlesOutcome (kind : CoapRequestKind) (ctx : NcAttachContext)
    (res : Option CoapClientResponse) (handled : HandledRequest) : Prop where
  asked : ∀ response ∈ handled.asked, response ≠ none
  cleared : storedCallback handled.ctx kind = false
  called : handled.calls.length = 1
  failed : isOkResponse res = false → ∀ call ∈ handled.calls, call.isError = true
  synchronized : isOkResponse res = false →
    handled.ctx.sctContext.synchronizedVersion = ctx.sctContext.synchronizedVersion
  again : startsAgain handled.ctx kind = true

theorem handleResponse_failed {res : Option CoapClientResponse} (h : isOkResponse res = false) :
    (coapAttachStartHandleResponse ctx res).2 = .error := by
  cases res with
  | none => rfl
  | some r =>
    have hcode : ncCoapIsStatusOk r.code = false := h
    rw [coapAttachStartHandleResponse, if_pos hcode]

theorem handleResponse_sct (ctx : NcAttachContext) (res : Option CoapClientResponse) :
    (coapAttachStartHandleResponse ctx res).1.sctContext = ctx.sctContext := by
  cases res with
  | none => rfl
  | some r =>
    unfold coapAttachStartHandleResponse
    dsimp only
    split_ifs
    · rfl
    · cases r.payload with
      | invalid | redirect => rfl
      | attached ka => cases ka <;> rfl

theorem attachStart_handles (hstored : ctx.startCallback = true) (res : Option CoapClientResponse) :
    HandlesOutcome .attachStart ctx res (coapAttachStartHandled ctx res) := by
  refine ⟨fun response hmem => ?_, rfl, by simp [coapAttachStartHandled, hstored],
    fun hfailed call hmem => ?_,
    fun _ => ?_, rfl⟩
  · cases res with
    | none => cases hmem
    | some r =>
      have heq : response = some r := by simpa [coapAttachStartHandled] using hmem
      simp [heq]
  · have heq : call = .attachStart (coapAttachStartHandleResponse ctx res).2 := by
      simpa [coapAttachStartHandled, hstored] using hmem
    rw [heq, handleResponse_failed hfailed]
    rfl
  · rw [coapAttachStartHandled, handleResponse_sct]

theorem attachEnd_handles (hstored : ctx.endCallback = true) (res : Option CoapClientResponse) :
    HandlesOutcome .attachEnd ctx res (coapAttachEndHandled ctx res) := by
  refine ⟨fun response hmem => ?_, rfl, by simp [coapAttachEndHandled, hstored],
    fun hfailed call hmem => ?_,
    fun _ => rfl, rfl⟩
  · cases res with
    | none => cases hmem
    | some r =>
      have heq : response = some r := by simpa [coapAttachEndHandled] using hmem
      simp [heq]
  · cases res with
    | none =>
      have heq : call = .attachEnd .unknown := by simpa [coapAttachEndHandled, hstored] using hmem
      rw [heq]
      rfl
    | some r =>
      have hcode : ncCoapIsStatusOk r.code = false := hfailed
      have heq : call = .attachEnd .unknown := by
        simpa [coapAttachEndHandled, hstored, hcode] using hmem
      rw [heq]
      rfl

theorem sct_handles (hstored : ctx.sctContext.callback.isSome = true) (scts : List String)
    (nullCode : ℕ) (r : CoapClientResponse) :
    HandlesOutcome (.sctUpload scts) ctx (some r) (sctRequestHandled ctx nullCode (some r)) := by
  obtain ⟨cb, hcb⟩ := Option.isSome_iff_exists.mp hstored
  refine ⟨fun response hmem => ?_, ?_, by simp [sctRequestHandled, hcb],
    fun hfailed call hmem => ?_,
    fun hfailed => ?_, ?_⟩
  · have heq : response = some r := by simpa [sctRequestHandled] using hmem
    simp [heq]
  · cases hok : ncCoapIsStatusOk r.code <;> simp [storedCallback, sctRequestHandled, hok]
  · have hcode : ncCoapIsStatusOk r.code = false := hfailed
    have heq : call = .sct cb .unknown := by simpa [sctRequestHandled, hcb, hcode] using hmem
    rw [heq]
    rfl
  · have hcode : ncCoapIsStatusOk r.code = false := hfailed
    simp [sctRequestHandled, hcode]
  · unfold startsAgain ncAttacherSctUpload sctRequestHandled
    dsimp only
    split_ifs <;> simp_all

/-- The handlers deal with every outcome but an upload of tokens that is completed without a
response. -/
theorem outcomes_handled_iff (kind : CoapRequestKind) (ctx : NcAttachContext) (nullCode : ℕ)
    (res : Option CoapClientResponse) (hstored : storedCallback ctx kind = true) :
    HandlesOutcome kind ctx res (requestHandled kind ctx nullCode res) ↔
      ((∃ scts, kind = .sctUpload scts) → res ≠ none) := by
  cases kind with
  | attachStart =>
    exact ⟨fun _ hsct => absurd hsct (by simp), fun _ => attachStart_handles hstored res⟩
  | attachEnd =>
    exact ⟨fun _ hsct => absurd hsct (by simp), fun _ => attachEnd_handles hstored res⟩
  | sctUpload scts =>
    constructor
    · exact fun h _ => h.asked res (by simp [requestHandled, sctRequestHandled])
    · intro hres
      cases res with
      | none => exact absurd rfl (hres ⟨scts, rfl⟩)
      | some r => exact sct_handles hstored scts nullCode r

def attachStartRun : List AttacherEvent := [.start, .dnsResolved true { handshake := .done }]

theorem outcomes_handled_attach_start :
    ∃ ctx, attacher.Run attachStartRun ctx ∧ storedCallback ctx .attachStart = true ∧
      HandlesOutcome .attachStart ctx none (requestHandled .attachStart ctx 0 none) :=
  ⟨_, Machine.run_of_exec rfl, by decide +kernel,
    (outcomes_handled_iff .attachStart _ 0 none (by decide +kernel)).mpr (by simp)⟩

def removedUploadRun : List AttacherEvent :=
  .addToken "a" true {} :: attachStartRun ++
    [.coapDone 0 (some ⟨205, .attached none⟩) {}, .packet { read := .error }]

theorem sct_upload_asks_null :
    ∃ ctx, attacher.Run removedUploadRun ctx ∧ ctx.requests = [⟨.sctUpload ["a"], true⟩] ∧
      (attacherStep ctx (.coapDone 0 none {})).isSome = true ∧
      ∀ nullCode, none ∈ (requestHandled (.sctUpload ["a"]) ctx nullCode none).asked ∧
        ¬ HandlesOutcome (.sctUpload ["a"]) ctx none
          (requestHandled (.sctUpload ["a"]) ctx nullCode none) := by
  refine ⟨_, Machine.run_of_exec rfl, by decide +kernel, by decide +kernel,
    fun nullCode => ⟨?_, ?_⟩⟩
  · simp [requestHandled, sctRequestHandled]
  · exact fun h => h.asked none (by simp [requestHandled, sctRequestHandled]) rfl

end NabtoDevice
