import NabtoDevice.Sanity.Attacher
import NabtoDevice.Sanity.AttacherCases
import NabtoDevice.Spec.AttacherTokens
import NabtoDevice.Lib.VersionedUpload

/-! What the attacher does to its server connect tokens. All functions but the upload, its
completion and the addition of a token leave the tokens and the uploads in flight as they are. -/

namespace NabtoDevice

def uploadOf (r : CoapClientRequest) : Option (List String) :=
  match r.kind with
  | .sctUpload scts => some scts
  | _ => none

/-- The context of the tokens together with what the uploads carry that are not completed. -/
structure SctState where
  sct : NcAttacherSctContext
  uploads : List (List String)

def tokens (ctx : NcAttachContext) : SctState := ⟨ctx.sctContext, ctx.requests.filterMap uploadOf⟩

def SctState.start (t : SctState) (cb : NcAttacherSctCallback) (created : Bool) : SctState :=
  if t.sct.version = t.sct.synchronizedVersion ∨ t.sct.callback ≠ none ∨ created = false then t
  else
    { sct := { t.sct with callback := some cb, uploadingVersion := t.sct.version }
      uploads := t.uploads ++ [t.sct.scts] }

def SctState.add (t : SctState) (token : String) (inserted : Bool) : SctState :=
  { t with
    sct :=
      { t.sct with
        version := (t.sct.version + 1) % 2 ^ 64
        scts := if inserted then t.sct.scts.insert token else t.sct.scts } }

variable (ctx : NcAttachContext)

@[simp] theorem tokens_handleStateChange : tokens (handleStateChange ctx) = tokens ctx := by
  unfold handleStateChange
  split <;> rfl

@[simp] theorem tokens_removeConnection :
    tokens (nabtoCoapClientRemoveConnection ctx) = tokens ctx := by
  simp only [tokens, nabtoCoapClientRemoveConnection, List.filterMap_map]
  rfl

@[simp] theorem tokens_dtlsReset : tokens (dtlsReset ctx) = tokens ctx := by
  suffices h : ∀ (l : List CliSendContext) (c : NcAttachContext),
      tokens (l.foldl sendContextCb c) = tokens c from h ctx.dtls.sendList ctx
  intro l
  induction l with
  | nil => exact fun _ => rfl
  | cons s l ih =>
    intro c
    refine (ih (sendContextCb c s)).trans ?_
    cases s <;> rfl

@[simp] theorem tokens_dtlsClosedSwitch : tokens (dtlsClosedSwitch ctx) = tokens ctx := by
  unfold dtlsClosedSwitch
  split
  · exact tokens_handleStateChange _
  · exact tokens_handleStateChange _
  · split_ifs
    · exact tokens_handleStateChange _
    · exact tokens_handleStateChange _
  · rfl
  · exact tokens_handleStateChange _
  · exact tokens_handleStateChange _
  · exact tokens_handleStateChange _

@[simp] theorem tokens_dtlsEventClosed : tokens (dtlsEventClosed ctx) = tokens ctx := by
  unfold dtlsEventClosed handleDtlsClosed
  dsimp only
  split_ifs
  · exact tokens_handleStateChange _
  · rw [tokens_dtlsClosedSwitch, tokens_dtlsReset, tokens_removeConnection]
    rfl

variable (env : AttacherEnv)

@[simp] theorem tokens_dtlsCliClose : tokens (dtlsCliClose ctx env) = tokens ctx := by
  unfold dtlsCliClose
  split_ifs
  · dsimp only
    split_ifs
    · exact tokens_dtlsEventClosed _
    · rfl
  · rfl

/-- A request of another kind does not count. -/
theorem tokens_coapRequestSend {kind : CoapRequestKind} (h : uploadOf ⟨kind, false⟩ = none) :
    tokens (coapRequestSend ctx kind) = tokens ctx := by
  simp [tokens, coapRequestSend, h]

@[simp] theorem tokens_sendAttachStartRequest :
    tokens (sendAttachStartRequest ctx env) = tokens ctx := by
  unfold sendAttachStartRequest ncAttacherAttachStartRequest
  split_ifs
  · exact tokens_dtlsCliClose ctx env
  · exact tokens_dtlsCliClose ctx env
  · exact tokens_coapRequestSend _ rfl

@[simp] theorem tokens_sendAttachEndRequest :
    tokens (sendAttachEndRequest ctx env) = tokens ctx := by
  unfold sendAttachEndRequest ncAttacherAttachEndRequest
  split_ifs
  · exact tokens_dtlsCliClose ctx env
  · exact tokens_dtlsCliClose ctx env
  · exact tokens_coapRequestSend _ rfl

/-- An upload is started or nothing happens to the tokens. -/
theorem sctUpload_cases (cb : NcAttacherSctCallback) (env : AttacherEnv) :
    (∃ ctx', ncAttacherSctUpload ctx cb env = .started ctx' ∧
      tokens ctx' = (tokens ctx).start cb env.sctRequest) ∨
    (ncAttacherSctUpload ctx cb env = .noOperation ∨ ncAttacherSctUpload ctx cb env = .failed) ∧
      (tokens ctx).start cb env.sctRequest = tokens ctx := by
  unfold ncAttacherSctUpload SctState.start
  dsimp only
  by_cases hversion : ctx.sctContext.version = ctx.sctContext.synchronizedVersion
  · exact Or.inr ⟨Or.inl (if_pos hversion), if_pos (Or.inl hversion)⟩
  rw [if_neg hversion]
  by_cases hcb : ctx.sctContext.callback ≠ none
  · exact Or.inr ⟨Or.inr (if_pos hcb), if_pos (Or.inr (Or.inl hcb))⟩
  rw [if_neg hcb]
  by_cases hcreated : env.sctRequest = false
  · exact Or.inr ⟨Or.inr (if_pos hcreated), if_pos (Or.inr (Or.inr hcreated))⟩
  · rw [if_neg hcreated, if_neg (by simp [tokens, hversion, hcb, hcreated])]
    exact Or.inl ⟨_, rfl, by simp [tokens, coapRequestSend, uploadOf]⟩

@[simp] theorem tokens_sendAttachSctRequest :
    tokens (sendAttachSctRequest ctx env) = (tokens ctx).start .attachSct env.sctRequest := by
  unfold sendAttachSctRequest
  rcases sctUpload_cases ctx .attachSct env with ⟨ctx', heq, ht⟩ | ⟨heq | heq, ht⟩
  · rw [heq]
    exact ht
  · rw [heq, ht]
    exact tokens_sendAttachEndRequest ctx env
  · rw [heq, ht]
    exact tokens_dtlsCliClose ctx env

@[simp] theorem tokens_sendSctRequest :
    tokens (sendSctRequest ctx env) = (tokens ctx).start .sct env.sctRequest := by
  unfold sendSctRequest
  rcases sctUpload_cases ctx .sct env with ⟨ctx', heq, ht⟩ | ⟨heq | heq, ht⟩
  · rw [heq]
    exact ht
  · rw [heq, ht]
  · rw [heq, ht]

theorem tokens_addToken (token : String) (inserted : Bool) (env : AttacherEnv) :
    tokens (ncAttacherAddServerConnectToken ctx token inserted env) =
      if inserted = true ∧ ctx.state = .attached then
        ((tokens ctx).add token inserted).start .sct env.sctRequest
      else (tokens ctx).add token inserted := by
  unfold ncAttacherAddServerConnectToken
  cases inserted with
  | false => rfl
  | true =>
    simp only [Bool.true_eq_false, if_false, true_and]
    split_ifs
    · rw [tokens_sendSctRequest]
      rfl
    · rfl

/-! ## Completed requests -/

def SctState.finish (t : SctState) (ok : Bool) (rest : List (List String)) : SctState :=
  { sct :=
      { t.sct with
        synchronizedVersion := if ok then t.sct.uploadingVersion else t.sct.synchronizedVersion
        callback := none }
    uploads := rest }

variable {i : ℕ} {r : CoapClientRequest}

/-- A request that is taken out of the list was an upload or not. -/
theorem uploads_eraseIdx {l : List CoapClientRequest} (hi : l[i]? = some r) :
    (uploadOf r = none → (l.eraseIdx i).filterMap uploadOf = l.filterMap uploadOf) ∧
      ∀ scts, uploadOf r = some scts →
        List.Perm (l.filterMap uploadOf) (scts :: (l.eraseIdx i).filterMap uploadOf) := by
  obtain ⟨hlt, rfl⟩ := List.getElem?_eq_some_iff.mp hi
  have hsplit : l = l.take i ++ l[i] :: l.drop (i + 1) := by simp
  have herase : l.eraseIdx i = l.take i ++ l.drop (i + 1) := List.eraseIdx_eq_take_drop_succ l i
  constructor
  · intro hnone
    conv_rhs => rw [hsplit]
    rw [herase, List.filterMap_append, List.filterMap_append, List.filterMap_cons_none hnone]
  · intro scts hscts
    conv_lhs => rw [hsplit]
    rw [herase, List.filterMap_append, List.filterMap_append, List.filterMap_cons_some hscts]
    exact List.perm_middle

/-- What a step does to the tokens: `added` says whether it is the addition of a token, and
`acked` is what an upload carried that the step answers with a success code. -/
inductive TokenMoves (t : SctState) : Bool → Option (List String) → SctState → Prop
  | keep : TokenMoves t false none t
  | add (token : String) (inserted : Bool) : TokenMoves t true none (t.add token inserted)
  | addStart (token : String) (inserted created : Bool) :
      TokenMoves t true none ((t.add token inserted).start .sct created)
  | start (cb : NcAttacherSctCallback) (created : Bool) :
      TokenMoves t false none (t.start cb created)
  | fail {scts : List String} {rest : List (List String)} (hcb : t.sct.callback ≠ none)
      (hp : t.uploads.Perm (scts :: rest)) : TokenMoves t false none (t.finish false rest)
  | ack {scts : List String} {rest : List (List String)} (hcb : t.sct.callback ≠ none)
      (hp : t.uploads.Perm (scts :: rest)) : TokenMoves t false (some scts) (t.finish true rest)
  | ackStart {scts : List String} {rest : List (List String)} (created : Bool)
      (hcb : t.sct.callback ≠ none) (hp : t.uploads.Perm (scts :: rest)) :
      TokenMoves t false (some scts) ((t.finish true rest).start .sct created)

theorem Handled.tokens {ctx ctx₁ : NcAttachContext} {res : Option CoapClientResponse}
    (h : Handled ctx i res r.kind ctx₁) (hi : ctx.requests[i]? = some r) :
    (uploadOf r = none → tokens ctx₁ = tokens ctx) ∧
      ∀ scts, uploadOf r = some scts → ∃ rest, (tokens ctx).uploads.Perm (scts :: rest) ∧
        tokens ctx₁ = (tokens ctx).finish (isOkResponse res) rest := by
  obtain ⟨hother, hupload⟩ := uploads_eraseIdx hi
  obtain ⟨kind, removed⟩ := r
  cases h with
  | attachStart | attachEnd =>
    exact ⟨fun hnone => congrArg (SctState.mk ctx.sctContext) (hother hnone),
      fun scts hscts => by cases hscts⟩
  | sctUpload =>
    refine ⟨fun hnone => (by cases hnone), fun scts hscts => ⟨_, hupload scts hscts, ?_⟩⟩
    cases isOkResponse res <;> rfl

theorem tokens_coapRequestDone {ctx ctx' : NcAttachContext} {res : Option CoapClientResponse}
    {env : AttacherEnv}
    (hi : ctx.requests[i]? = some r) (h : coapRequestDone ctx i res env = some ctx') :
    TokenMoves (tokens ctx) false (if isOkResponse (responseOf r res) then uploadOf r else none)
      (tokens ctx') := by
  obtain ⟨q, ctx₁, hq, hhandled, hcalls⟩ := coapRequestDone_callsBack h
  obtain rfl : q = r := Option.some.inj (hq.symm.trans hi)
  obtain ⟨hother, hupload⟩ := hhandled.tokens hi
  have hbusy {cb : NcAttacherSctCallback} (hcb : ctx.sctContext.callback = some cb) :
      (tokens ctx).sct.callback ≠ none := fun hnone => by cases hcb.symm.trans hnone
  generalize responseOf q res = answer at *
  obtain ⟨kind, removed⟩ := q
  cases kind with
  | attachStart =>
    rw [show uploadOf ⟨.attachStart, removed⟩ = none from rfl, ite_self, ← hother rfl]
    cases hcalls with
    | fails | redirected =>
      rw [tokens_dtlsCliClose]
      exact .keep
    | started =>
      rw [tokens_sendAttachSctRequest]
      exact .start _ _
  | attachEnd =>
    rw [show uploadOf ⟨.attachEnd, removed⟩ = none from rfl, ite_self, ← hother rfl]
    cases hcalls with
    | fails =>
      rw [tokens_dtlsCliClose]
      exact .keep
    | attached =>
      rw [tokens_sendSctRequest]
      exact .start _ _
  | sctUpload scts =>
    obtain ⟨rest, hp, hfinish⟩ := hupload scts rfl
    cases hcalls with
    | fails ha =>
      rw [tokens_dtlsCliClose, hfinish]
      have hcb := hbusy (of_decide_eq_true ha)
      cases isOkResponse answer with
      | false => exact .fail hcb hp
      | true => exact .ack hcb hp
    | synchronized _ hok hcb =>
      rw [tokens_sendAttachEndRequest, hfinish, hok]
      exact .ack (hbusy hcb) hp
    | refused hok hcb =>
      rw [hfinish, hok]
      exact .fail (hbusy hcb) hp
    | uploaded hok hcb =>
      rw [tokens_sendSctRequest, hfinish, hok]
      exact .ackStart _ (hbusy hcb) hp

/-! ## Steps -/

theorem tokenMoves_coapCompleteInReset :
    TokenMoves (tokens ctx) false none (tokens (coapCompleteInReset ctx env)) := by
  unfold coapCompleteInReset
  cases env.completesInReset with
  | none => exact .keep
  | some i =>
    dsimp only
    split_ifs
    · cases hdone : coapRequestDone ctx i none env with
      | none => exact .keep
      | some ctx' =>
        cases hi : ctx.requests[i]? with
        | none =>
          rw [coapRequestDone, hi] at hdone
          cases hdone
        | some r =>
          have hnone : isOkResponse (responseOf r none) = false := by
            unfold responseOf
            split_ifs <;> rfl
          have hmoves := tokens_coapRequestDone hi hdone
          rwa [hnone] at hmoves
    · exact .keep

theorem tokenMoves_dtlsEventHandler {ctx : NcAttachContext} {t : SctState} (ht : tokens ctx = t)
    (event : NpDtlsCliEvent) (env : AttacherEnv) :
    TokenMoves t false none (tokens (dtlsEventHandler ctx event env)) := by
  subst ht
  cases event with
  | closed =>
    rw [dtlsEventHandler, tokens_dtlsEventClosed]
    exact .keep
  | handshakeComplete =>
    suffices h : tokens (dtlsEventHandler ctx .handshakeComplete env) = tokens ctx from h ▸ .keep
    unfold dtlsEventHandler handleDtlsConnected
    dsimp only
    split_ifs
    · exact tokens_dtlsCliClose _ env
    · exact tokens_dtlsCliClose _ env
    · exact tokens_sendAttachStartRequest _ env
  | accessDenied =>
    unfold dtlsEventHandler handleDtlsAccessDenied
    dsimp only
    split_ifs
    · rw [tokens_handleStateChange]
      exact .keep
    · rw [tokens_handleStateChange]
      have hreset (c : NcAttachContext) :
          tokens { dtlsReset c with state := .accessDeniedWait } = tokens c := tokens_dtlsReset c
      rw [hreset]
      have hmoves := tokenMoves_coapCompleteInReset (nabtoCoapClientRemoveConnection
        { recordDtlsEvent ctx .accessDenied with keepAlive := ncKeepAliveReset ctx.keepAlive }) env
      rwa [tokens_removeConnection] at hmoves

theorem tokens_dtlsDataHandler (buffer : List UInt8) :
    tokens (dtlsDataHandler ctx buffer) = tokens ctx := by
  cases buffer with
  | nil => rfl
  | cons b bs =>
    unfold dtlsDataHandler handleKeepAliveData keepAliveSendResponse
    dsimp only
    split_ifs
    · rfl
    · cases ncKeepAliveHandleRequest ctx.keepAlive (b :: bs) <;> rfl
    · rfl
    · rfl

theorem tokenMoves_doOne {ctx : NcAttachContext} {t : SctState} (ht : tokens ctx = t)
    (env : AttacherEnv) : TokenMoves t false none (tokens (nmDtlsEventDoOne ctx env)) := by
  subst ht
  unfold nmDtlsEventDoOne
  cases ctx.dtls.state with
  | closing => exact .keep
  | connecting =>
    dsimp only
    cases env.handshake with
    | wantReadWrite => exact .keep
    | accessDenied =>
      refine tokenMoves_dtlsEventHandler ?_ _ env
      rfl
    | error =>
      refine tokenMoves_dtlsEventHandler ?_ _ env
      rfl
    | done =>
      refine tokenMoves_dtlsEventHandler ?_ _ env
      rfl
  | data =>
    dsimp only
    cases env.read with
    | eof | wantReadWrite => exact .keep
    | data buffer =>
      rw [tokens_dtlsDataHandler]
      exact .keep
    | accessDenied =>
      refine tokenMoves_dtlsEventHandler ?_ _ env
      rfl
    | error =>
      rw [nmDtlsDoClose, tokens_dtlsEventClosed]
      exact .keep

theorem tokens_doClose : tokens (doClose ctx env) = tokens ctx := by
  unfold doClose
  split_ifs
  · rfl
  · dsimp only
    split
    · exact tokens_handleStateChange _
    · exact tokens_handleStateChange _
    · rfl
    · exact tokens_dtlsCliClose _ env
    · exact tokens_dtlsCliClose _ env
    · rfl
    · rfl

theorem tokens_startSendDeferred (ret : WriteRet) (call : MbedtlsCall) :
    tokens (nmMbedtlsCliStartSendDeferred ctx ret call) = tokens ctx := by
  unfold nmMbedtlsCliStartSendDeferred
  split
  · rfl
  split
  · rfl
  cases ctx.dtls.sendList with
  | nil => rfl
  | cons next rest => cases next <;> rfl

theorem tokens_keepAliveEvent : tokens (keepAliveEvent ctx env) = tokens ctx := by
  unfold keepAliveEvent
  rcases ncKeepAliveShouldSend ctx.keepAlive ctx.dtls.recvCount ctx.dtls.sentCount with ⟨ka, action⟩
  cases action with
  | doNothing | sendKa => rfl
  | kaTimeout => exact tokens_dtlsCliClose _ env

theorem sctAcknowledged_coapDone {ctx : NcAttachContext} (res : Option CoapClientResponse)
    (env : AttacherEnv) (hi : ctx.requests[i]? = some r) :
    sctAcknowledged ctx (.coapDone i res env) =
      if isOkResponse (responseOf r res) then uploadOf r else none := by
  obtain ⟨kind, removed⟩ := r
  cases res with
  | none => cases removed <;> rfl
  | some res =>
    simp only [sctAcknowledged, hi]
    cases removed <;> cases kind <;> simp [isOkResponse, responseOf, uploadOf]

theorem tokenMoves_step {ctx ctx' : NcAttachContext} {e : AttacherEvent}
    (hstep : attacherStep ctx e = some ctx') :
    TokenMoves (tokens ctx) (isAddToken e) (sctAcknowledged ctx e) (tokens ctx') := by
  cases attacherCase_of_step hstep with
  | startRefused | timerClosing | coapBusy | coapSend | closeEv => exact .keep
  | start | resolvedLate | resolveFailed | reattachLate | reattach =>
    rw [tokens_handleStateChange]
    exact .keep
  | asyncClose | stop =>
    rw [tokens_doClose]
    exact .keep
  | addToken token inserted env =>
    rw [tokens_addToken]
    split_ifs
    · exact .addStart token inserted _
    · exact .add token inserted
  | resolved env =>
    refine tokenMoves_doOne ?_ env
    exact tokens_handleStateChange _
  | packet env => exact tokenMoves_doOne rfl env
  | timer env =>
    refine tokenMoves_doOne ?_ env
    rfl
  | udpSentLast =>
    rw [nmDtlsDoClose, tokens_dtlsEventClosed]
    exact .keep
  | udpSent coalesced env =>
    refine tokenMoves_doOne ?_ env
    rfl
  | startSend =>
    rw [tokens_startSendDeferred]
    exact .keep
  | @coapDone i res env _ hdone =>
    cases hi : ctx.requests[i]? with
    | none =>
      rw [coapRequestDone, hi] at hdone
      cases hdone
    | some r =>
      rw [sctAcknowledged_coapDone res env hi]
      exact tokens_coapRequestDone hi hdone
  | keepAlive =>
    rw [tokens_keepAliveEvent]
    exact .keep

end NabtoDevice
