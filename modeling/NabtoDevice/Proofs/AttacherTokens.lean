import NabtoDevice.Sanity.AttacherTokens

/-! The server connect tokens that are said to be synchronized have been uploaded. The context
of the tokens is a versioned upload whose version is a 64 bit counter of the calls that add a
token. -/

namespace NabtoDevice

open VersionedUpload (Step Consistent consistent_empty)
open Relation (ReflTransGen)

variable {added : Bool}

namespace SctState

variable {t t' : SctState}

def upload (t : SctState) (acked : Option (List String)) : VersionedUpload.State String :=
  ⟨t.sct.scts, t.sct.version, t.sct.synchronizedVersion, t.sct.uploadingVersion,
    t.uploads.head?, acked⟩

structure Single (t : SctState) : Prop where
  idle : t.sct.callback = none → t.uploads = []
  busy : t.sct.callback ≠ none → ∃ scts, t.uploads = [scts]

theorem Single.start (h : t.Single) (cb : NcAttacherSctCallback) (created : Bool)
    (acked : Option (List String)) :
    (t.start cb created).Single ∧
      ReflTransGen Step (t.upload acked) ((t.start cb created).upload acked) := by
  unfold SctState.start
  split_ifs with hskip
  · exact ⟨h, .refl⟩
  · have hnone : t.sct.callback = none := by
      by_contra hbusy
      exact hskip (Or.inr (Or.inl hbusy))
    have huploads := h.idle hnone
    refine ⟨⟨nofun, fun _ => ⟨t.sct.scts, by simp [huploads]⟩⟩, .single ?_⟩
    have hidle : (t.upload acked).inFlight = none := by simp [upload, huploads]
    have hstart := Step.start (t.upload acked) hidle
    simpa [upload, huploads] using hstart

theorem Single.add (h : t.Single) (token : String) (inserted : Bool) (acked : Option (List String))
    (hfits : t.sct.version + 1 < 2 ^ 64) :
    (t.add token inserted).Single ∧
      ReflTransGen Step (t.upload acked) ((t.add token inserted).upload acked) := by
  have hversion : (t.sct.version + 1) % 2 ^ 64 = t.sct.version + 1 := Nat.mod_eq_of_lt hfits
  refine ⟨⟨h.idle, h.busy⟩, .single ?_⟩
  rw [SctState.add, hversion]
  cases inserted with
  | true => exact Step.add (t.upload acked) token
  | false => exact Step.bump (t.upload acked)

theorem Single.rest_nil (h : t.Single) (hcb : t.sct.callback ≠ none) {scts : List String}
    {rest : List (List String)} (hp : t.uploads.Perm (scts :: rest)) :
    rest = [] ∧ t.uploads = [scts] := by
  obtain ⟨scts', huploads⟩ := h.busy hcb
  rw [huploads] at hp
  obtain ⟨rfl, rfl⟩ := List.cons.inj (List.singleton_perm.mp hp)
  exact ⟨rfl, huploads⟩

/-- A step of the attacher is a step of the versioned upload, or two. -/
theorem Single.moves (h : t.Single) {ack : Option (List String)} (acked : Option (List String))
    (hfits : added = true → t.sct.version + 1 < 2 ^ 64) (hm : TokenMoves t added ack t') :
    t'.Single ∧ ReflTransGen Step (t.upload acked) (t'.upload (ack.or acked)) := by
  cases hm with
  | keep => exact ⟨h, .refl⟩
  | add token inserted => exact h.add token inserted acked (hfits rfl)
  | addStart token inserted created =>
    obtain ⟨hadd, hsteps⟩ := h.add token inserted acked (hfits rfl)
    obtain ⟨hstart, hmore⟩ := hadd.start .sct created acked
    exact ⟨hstart, hsteps.trans hmore⟩
  | start cb created => exact h.start cb created acked
  | fail hcb hp =>
    obtain ⟨rfl, -⟩ := h.rest_nil hcb hp
    exact ⟨⟨fun _ => rfl, fun hne => absurd rfl hne⟩, .single (Step.fail (t.upload acked))⟩
  | @ack scts _ hcb hp =>
    obtain ⟨rfl, huploads⟩ := h.rest_nil hcb hp
    have hflight : (t.upload acked).inFlight = some scts := by simp [upload, huploads]
    exact ⟨⟨fun _ => rfl, fun hne => absurd rfl hne⟩, .single (Step.ack (t.upload acked) hflight)⟩
  | @ackStart scts _ created hcb hp =>
    obtain ⟨rfl, huploads⟩ := h.rest_nil hcb hp
    have hflight : (t.upload acked).inFlight = some scts := by simp [upload, huploads]
    have hfinish : (t.finish true []).Single := ⟨fun _ => rfl, fun hne => absurd rfl hne⟩
    obtain ⟨hstart, hmore⟩ := hfinish.start .sct created (some scts)
    have hack := Step.ack (t.upload acked) hflight
    exact ⟨hstart, .head hack hmore⟩

theorem start_version (t : SctState) (cb : NcAttacherSctCallback) (created : Bool) :
    (t.start cb created).sct.version = t.sct.version ∧
      (t.start cb created).sct.scts = t.sct.scts := by
  unfold SctState.start
  split_ifs <;> exact ⟨rfl, rfl⟩

theorem start_busy (ht : t.sct.callback ≠ none) (cb : NcAttacherSctCallback) (created : Bool) :
    t.start cb created = t := if_pos (Or.inr (Or.inl ht))

/-- The version counts the additions, and no token is lost. -/
theorem version_moves {ack : Option (List String)} (hm : TokenMoves t added ack t')
    (hfits : added = true → t.sct.version + 1 < 2 ^ 64) :
    t'.sct.version = t.sct.version + added.toNat ∧ t.sct.scts ⊆ t'.sct.scts := by
  have hadd (token : String) (inserted : Bool) (hlt : t.sct.version + 1 < 2 ^ 64) :
      (t.add token inserted).sct.version = t.sct.version + 1 ∧
        t.sct.scts ⊆ (t.add token inserted).sct.scts := by
    refine ⟨Nat.mod_eq_of_lt hlt, fun token' hmem => ?_⟩
    cases inserted with
    | true => exact List.mem_insert_of_mem hmem
    | false => exact hmem
  cases hm with
  | keep => exact ⟨rfl, List.Subset.refl _⟩
  | add token inserted => exact hadd token inserted (hfits rfl)
  | addStart token inserted created =>
    obtain ⟨hversion, hscts⟩ := start_version (t.add token inserted) .sct created
    rw [hversion, hscts]
    exact hadd token inserted (hfits rfl)
  | start cb created =>
    obtain ⟨hversion, hscts⟩ := start_version t cb created
    rw [hversion, hscts]
    exact ⟨rfl, List.Subset.refl _⟩
  | fail | ack => exact ⟨rfl, List.Subset.refl _⟩
  | @ackStart _ rest created =>
    obtain ⟨hversion, hscts⟩ := start_version (t.finish true rest) .sct created
    rw [hversion, hscts]
    exact ⟨rfl, List.Subset.refl _⟩

/-- While an upload is in flight its version stays what it was. -/
theorem uploadingVersion_moves (hm : TokenMoves t added none t') (hcb : t.sct.callback ≠ none)
    (hcb' : t'.sct.callback ≠ none) : t'.sct.uploadingVersion = t.sct.uploadingVersion := by
  cases hm with
  | keep | add => rfl
  | addStart token inserted created => rw [start_busy (t := t.add token inserted) hcb]; rfl
  | start cb created => rw [start_busy hcb]
  | fail => exact absurd rfl hcb'

end SctState

/-! ## Runs -/

structure TokensInv (evs : List AttacherEvent) (a : SctAttacher) : Prop where
  version : a.ctx.sctContext.version = evs.countP isAddToken
  kept : ∀ token env, .addToken token true env ∈ evs → token ∈ a.ctx.sctContext.scts
  single : (tokens a.ctx).Single
  consistent : Consistent ((tokens a.ctx).upload a.acked)
  late : a.late = true → a.ctx.sctContext.callback ≠ none ∧
    a.ctx.sctContext.uploadingVersion < a.ctx.sctContext.version

theorem tokensInv_init : TokensInv [] sctAttacher.init where
  version := rfl
  kept _ _ h := absurd h List.not_mem_nil
  single := ⟨fun _ => rfl, fun h => absurd rfl h⟩
  consistent := consistent_empty
  late h := absurd h Bool.false_ne_true

variable {ctx ctx' : NcAttachContext} {env : AttacherEnv}

theorem token_added {token : String}
    (hstep : attacherStep ctx (.addToken token true env) = some ctx') :
    token ∈ ctx'.sctContext.scts := by
  have htokens := tokens_addToken ctx token true env
  rw [Option.some.inj hstep] at htokens
  have hscts : ctx'.sctContext.scts = ctx.sctContext.scts.insert token := by
    change (tokens ctx').sct.scts = _
    rw [htokens]
    split_ifs
    · exact (SctState.start_version _ _ _).2
    · rfl
  rw [hscts]
  exact List.mem_insert_self

variable {e : AttacherEvent}

theorem TokensInv.step {evs : List AttacherEvent} {a b : SctAttacher} (h : TokensInv evs a)
    (hs : sctAttacherStep a e = some b) (hfew : (evs ++ [e]).countP isAddToken < 2 ^ 64) :
    TokensInv (evs ++ [e]) b := by
  obtain ⟨ctx', hstep, rfl⟩ := Option.map_eq_some_iff.mp hs
  have hmoves := tokenMoves_step hstep
  have hcount : (evs ++ [e]).countP isAddToken = evs.countP isAddToken + (isAddToken e).toNat := by
    rw [List.countP_append, List.countP_singleton]
    cases isAddToken e <;> rfl
  have hfits : isAddToken e = true → (tokens a.ctx).sct.version + 1 < 2 ^ 64 := fun hadd => by
    rw [hcount, hadd, ← h.version] at hfew
    exact hfew
  obtain ⟨hversion, hscts⟩ := SctState.version_moves hmoves hfits
  obtain ⟨hsingle, hsteps⟩ := h.single.moves a.acked hfits hmoves
  refine ⟨?_, fun token env hmem => ?_, hsingle, h.consistent.steps hsteps, fun hlate => ?_⟩
  · exact hversion.trans (by rw [hcount, ← h.version]; rfl)
  · rcases List.mem_append.mp hmem with hmem | hmem
    · exact hscts (h.kept token env hmem)
    · obtain rfl := List.mem_singleton.mp hmem
      exact token_added hstep
  · simp only [Bool.and_eq_true, Bool.or_eq_true, Option.isNone_iff_eq_none] at hlate
    obtain ⟨⟨⟨hack, hbusy⟩, hbusy'⟩, hcause⟩ := hlate
    have hcb : a.ctx.sctContext.callback ≠ none := Option.isSome_iff_ne_none.mp hbusy
    have hcb' : ctx'.sctContext.callback ≠ none := Option.isSome_iff_ne_none.mp hbusy'
    rw [hack] at hmoves
    have huploading : ctx'.sctContext.uploadingVersion = a.ctx.sctContext.uploadingVersion :=
      SctState.uploadingVersion_moves hmoves hcb hcb'
    have hraised : ctx'.sctContext.version = a.ctx.sctContext.version +
      (isAddToken e).toNat := hversion
    refine ⟨hcb', ?_⟩
    rcases hcause with hlate | hadd
    · have := (h.late hlate).2
      simp only
      omega
    · obtain ⟨scts, huploads⟩ := h.single.busy hcb
      have hle : a.ctx.sctContext.uploadingVersion ≤ a.ctx.sctContext.version :=
        h.consistent.uploading_le scts (by simp [SctState.upload, huploads])
      rw [hadd] at hraised
      simp only [Bool.toNat_true] at hraised ⊢
      omega

theorem tokensInv_run {evs : List AttacherEvent} {a : SctAttacher} (h : sctAttacher.Run evs a)
    (hfew : evs.countP isAddToken < 2 ^ 64) : TokensInv evs a := by
  induction h with
  | nil => exact tokensInv_init
  | @snoc evs a e b hr hs ih =>
    have hbefore : evs.countP isAddToken < 2 ^ 64 := by
      rw [List.countP_append] at hfew
      omega
    exact (ih hbefore).step hs hfew

/-! ## The next upload -/

structure UploadsAll (ctx : NcAttachContext) : Prop where
  busy : ctx.sctContext.callback ≠ none
  version : ctx.sctContext.uploadingVersion = ctx.sctContext.version
  sent : ⟨.sctUpload ctx.sctContext.scts, false⟩ ∈ ctx.requests

theorem sctUpload_started (hversion : ctx.sctContext.version ≠ ctx.sctContext.synchronizedVersion)
    (hidle : ctx.sctContext.callback = none) (hcreated : env.sctRequest = true)
    (cb : NcAttacherSctCallback) :
    ∃ ctx', ncAttacherSctUpload ctx cb env = .started ctx' ∧ UploadsAll ctx' := by
  rw [ncAttacherSctUpload, if_neg hversion, if_neg (by simp [hidle]), if_neg (by simp [hcreated])]
  exact ⟨_, rfl, by simp [coapRequestSend], rfl, by simp [coapRequestSend]⟩

theorem sendSctRequest_uploadsAll
    (hversion : ctx.sctContext.version ≠ ctx.sctContext.synchronizedVersion)
    (hidle : ctx.sctContext.callback = none) (hcreated : env.sctRequest = true) :
    UploadsAll (sendSctRequest ctx env) := by
  obtain ⟨ctx', heq, hall⟩ := sctUpload_started hversion hidle hcreated .sct
  rwa [sendSctRequest, heq]

theorem sendAttachSctRequest_uploadsAll
    (hversion : ctx.sctContext.version ≠ ctx.sctContext.synchronizedVersion)
    (hidle : ctx.sctContext.callback = none) (hcreated : env.sctRequest = true) :
    UploadsAll (sendAttachSctRequest ctx env) := by
  obtain ⟨ctx', heq, hall⟩ := sctUpload_started hversion hidle hcreated .attachSct
  rwa [sendAttachSctRequest, heq]

def createsUpload : AttacherEvent → Bool
  | .coapDone _ _ env => env.sctRequest
  | _ => true

/-- The response lets the attach procedure go on to the upload of the tokens, or ends it. -/
def goesOnToUpload (ctx : NcAttachContext) : AttacherEvent → Bool
  | .coapDone i (some res) _ =>
    match ctx.requests[i]? with
    | some ⟨.attachStart, false⟩ =>
      match res.payload with
      | .attached _ => decide (ctx.moduleState ≠ .closed) && ncCoapIsStatusOk res.code
      | _ => false
    | some ⟨.attachEnd, false⟩ => decide (ctx.moduleState ≠ .closed) && ncCoapIsStatusOk res.code
    | _ => false
  | _ => false

theorem acknowledged_inv (h : (sctAcknowledged ctx e).isSome = true) :
    ∃ i res env scts, e = .coapDone i (some res) env ∧
      ctx.requests[i]? = some ⟨.sctUpload scts, false⟩ ∧
      ncCoapIsStatusOk res.code = true := by
  unfold sctAcknowledged at h
  split at h
  · rename_i i res env
    split at h
    · rename_i scts hi
      split_ifs at h with hok
      · exact ⟨i, res, env, scts, rfl, hi, hok⟩
      · cases h
    · cases h
  · cases h

/-- A success makes the version of the upload the synchronized one. -/
theorem acknowledged_synchronizes (hstep : attacherStep ctx e = some ctx')
    (hack : (sctAcknowledged ctx e).isSome = true) :
    ctx'.sctContext.synchronizedVersion = ctx.sctContext.uploadingVersion ∧
      ctx'.sctContext.version = ctx.sctContext.version := by
  have hmoves := tokenMoves_step hstep
  have hstart (t : SctState) (created : Bool) :
      (t.start .sct created).sct.synchronizedVersion = t.sct.synchronizedVersion := by
    unfold SctState.start
    split_ifs <;> rfl
  obtain ⟨i, res, env, scts, rfl, hi, hok⟩ := acknowledged_inv hack
  obtain ⟨scts', hsome⟩ := Option.isSome_iff_exists.mp hack
  rw [hsome] at hmoves
  change (tokens ctx').sct.synchronizedVersion = _ ∧ (tokens ctx').sct.version = _
  generalize tokens ctx' = t' at hmoves ⊢
  cases hmoves with
  | ack => exact ⟨rfl, rfl⟩
  | ackStart created => exact ⟨hstart _ _, (SctState.start_version _ _ _).1⟩

theorem acknowledged_followed (hstep : attacherStep ctx e = some ctx')
    (hack : (sctAcknowledged ctx e).isSome = true)
    (hcb : ctx.sctContext.callback = some .sct) (hcreated : createsUpload e = true)
    (hversion : ctx.sctContext.version ≠ ctx.sctContext.uploadingVersion) : UploadsAll ctx' := by
  obtain ⟨i, res, env, scts, rfl, hi, hok⟩ := acknowledged_inv hack
  have hdone : coapRequestDone ctx i (some res) env = some ctx' := hstep
  simp only [coapRequestDone, hi, hcb, Option.map_some, Option.some.injEq, sctRequestHandler,
    Bool.false_eq_true, if_false, Option.getD_some, hok, if_true, sendSctRequestCallback] at hdone
  rw [← hdone]
  exact sendSctRequest_uploadsAll hversion rfl hcreated

theorem goesOn_followed (hstep : attacherStep ctx e = some ctx')
    (hgoes : goesOnToUpload ctx e = true)
    (hidle : ctx.sctContext.callback = none) (hcreated : createsUpload e = true)
    (hversion : ctx.sctContext.version ≠ ctx.sctContext.synchronizedVersion) : UploadsAll ctx' := by
  unfold goesOnToUpload at hgoes
  split at hgoes
  · rename_i i res env
    have hdone : coapRequestDone ctx i (some res) env = some ctx' := hstep
    split at hgoes
    · rename_i hi
      split at hgoes
      · rename_i ka hpayload
        simp only [Bool.and_eq_true, decide_eq_true_eq] at hgoes
        simp only [coapRequestDone, hi, Bool.false_eq_true, if_false] at hdone
        split_ifs at hdone
        simp only [coapAttachStartHandler, coapAttachStartHandleResponse, hgoes.2, hpayload,
          Bool.true_eq_false, if_false] at hdone
        have hmodule (c : NcAttachContext) : (handleAttached c ka).moduleState = c.moduleState := by
          cases ka <;> rfl
        have hsct (c : NcAttachContext) : (handleAttached c ka).sctContext = c.sctContext := by
          cases ka <;> rfl
        rw [← Option.some.inj hdone, coapAttachStartCallback,
          if_neg (by rw [hmodule]; exact hgoes.1)]
        refine sendAttachSctRequest_uploadsAll ?_ ?_ hcreated
        · rw [hsct]
          exact hversion
        · rw [hsct]
          exact hidle
      · cases hgoes
    · rename_i hi
      simp only [Bool.and_eq_true, decide_eq_true_eq] at hgoes
      simp only [coapRequestDone, hi, Bool.false_eq_true, if_false] at hdone
      split_ifs at hdone
      simp only [coapAttachEndHandler, Option.map_some, Option.getD_some, hgoes.2] at hdone
      rw [← Option.some.inj hdone, coapAttachEndCallback, if_neg (by simp),
        if_neg (by exact hgoes.1)]
      exact sendSctRequest_uploadsAll hversion hidle hcreated
    · cases hgoes
  · cases hgoes

/-- With fewer than 2^64 additions the synchronized version is at most the current one. If they
are equal the upload that was last acknowledged carried every token, and a token that was added
too late for an upload goes out with the next one. -/
theorem tokens_synchronized {evs : List AttacherEvent} (hfew : evs.countP isAddToken < 2 ^ 64) :
    (∀ pre a, pre <+: evs → sctAttacher.Run pre a →
      a.ctx.sctContext.synchronizedVersion ≤ a.ctx.sctContext.version ∧
      (a.ctx.state = .attached → (ncAttacherIsServerConnectTokensSynchronized a.ctx = .ok ↔
        a.ctx.sctContext.synchronizedVersion = a.ctx.sctContext.version)) ∧
      (a.ctx.sctContext.synchronizedVersion = a.ctx.sctContext.version →
        ∀ token env, .addToken token true env ∈ pre → ∃ scts, a.acked = some scts ∧ token ∈ scts)) ∧
    ∀ a e b, sctAttacher.Takes evs a e → sctAttacherStep a e = some b →
      ((sctAcknowledged a.ctx e).isSome = true → a.late = true →
        b.ctx.sctContext.synchronizedVersion < b.ctx.sctContext.version ∧
        (a.ctx.sctContext.callback = some .sct → createsUpload e = true → UploadsAll b.ctx)) ∧
      (goesOnToUpload a.ctx e = true → a.ctx.sctContext.callback = none → createsUpload e = true →
        a.ctx.sctContext.version ≠ a.ctx.sctContext.synchronizedVersion → UploadsAll b.ctx) := by
  have hinv {pre : List AttacherEvent} {a : SctAttacher} (hp : pre <+: evs)
      (hr : sctAttacher.Run pre a) : TokensInv pre a :=
    tokensInv_run hr ((hp.sublist.countP_le).trans_lt hfew)
  refine ⟨fun pre a hp hr => ⟨(hinv hp hr).consistent.synced_le, fun hs => ?_, ?_⟩, ?_⟩
  · simp [ncAttacherIsServerConnectTokensSynchronized, hs]
  · intro heq token env hmem
    exact (hinv hp hr).consistent.acked heq token ((hinv hp hr).kept token env hmem)
  · rintro a e b ⟨pre, hp, hr⟩ hs
    obtain ⟨ctx', hstep, rfl⟩ := Option.map_eq_some_iff.mp hs
    have ha := hinv ((List.prefix_append _ _).trans hp) hr
    refine ⟨fun hack hlate => ?_, fun hgoes hidle hcreated hversion => ?_⟩
    · obtain ⟨-, hlt⟩ := ha.late hlate
      obtain ⟨hsynced, hversion⟩ := acknowledged_synchronizes hstep hack
      refine ⟨by rw [hsynced, hversion]; exact hlt, fun hcb hcreated => ?_⟩
      exact acknowledged_followed hstep hack hcb hcreated (Nat.ne_of_gt hlt)
    · exact goesOn_followed hstep hgoes hidle hcreated hversion

/-- The attacher is given "a", attaches, and is given "b" while "a" is uploaded. -/
def attachWithTokens : List AttacherEvent :=
  [.addToken "a" true {}, .start, .dnsResolved true { handshake := .done },
    .coapDone 0 (some ⟨205, .attached none⟩) {}, .addToken "b" true {},
    .coapDone 0 (some ⟨204, .invalid⟩) {}, .coapDone 0 (some ⟨204, .invalid⟩) {}]

theorem tokens_synchronized_attached :
    ∃ a, sctAttacher.Run (attachWithTokens ++ [.coapDone 0 (some ⟨204, .invalid⟩) {}]) a ∧
      a.ctx.sctContext.version = 2 ∧ ∃ scts, a.acked = some scts ∧ "b" ∈ scts := by
  obtain ⟨a, hr, hp⟩ := Machine.exists_run_of_exec (M := sctAttacher)
    (p := fun a => decide (a.ctx.sctContext.version = 2 ∧ a.ctx.sctContext.synchronizedVersion = 2))
    (attachWithTokens ++ [.coapDone 0 (some ⟨204, .invalid⟩) {}]) (by decide +kernel)
  obtain ⟨hversion, hsynced⟩ := of_decide_eq_true hp
  have hsync := (tokens_synchronized (by decide +kernel)).1 _ a (List.prefix_refl _) hr
  exact ⟨a, hr, hversion,
    hsync.2.2 (hsynced.trans hversion.symm) "b" {} (by simp [attachWithTokens])⟩

theorem exec_addTokens (n : ℕ) :
    ∃ scts, sctAttacher.exec (List.replicate n (.addToken "a" true {})) =
      some ⟨{ ncAttacherInit with sctContext := ⟨scts, n % 2 ^ 64, 0, 0, none⟩ }, none, false⟩ := by
  induction n with
  | zero => exact ⟨[], rfl⟩
  | succ n ih =>
    obtain ⟨scts, hexec⟩ := ih
    refine ⟨scts.insert "a", ?_⟩
    rw [List.replicate_succ', Machine.exec_snoc, hexec]
    simp [sctAttacher, sctAttacherStep, attacherStep, ncAttacherAddServerConnectToken,
      ncAttacherInit, sctAcknowledged]

/-- After 2^64 additions the versions are equal and nothing has been uploaded. And an upload that
cannot be created is not tried again. -/
theorem tokens_not_synchronized :
    (∃ a, sctAttacher.Run (List.replicate (2 ^ 64) (.addToken "a" true {})) a ∧
      a.ctx.sctContext.synchronizedVersion = a.ctx.sctContext.version ∧ a.acked = none) ∧
    ∃ a b, sctAttacher.Run (attachWithTokens ++ [.addToken "c" true {}]) a ∧
      sctAttacherStep a (.coapDone 0 (some ⟨204, .invalid⟩) { sctRequest := false }) = some b ∧
      a.late = true ∧ b.acked = some ["b", "a"] ∧ b.ctx.sctContext.scts = ["c", "b", "a"] ∧
      b.ctx.state = .attached ∧ b.ctx.sctContext.callback = none ∧ b.ctx.requests = [] := by
  constructor
  · obtain ⟨scts, hexec⟩ := exec_addTokens (2 ^ 64)
    refine ⟨_, Machine.run_of_exec hexec, ?_, rfl⟩
    exact (Nat.mod_self (2 ^ 64)).symm
  · obtain ⟨a, hr, hp⟩ := Machine.exists_run_of_exec (M := sctAttacher)
      (p := fun a => a.late &&
        (sctAttacherStep a
          (.coapDone 0 (some ⟨204, .invalid⟩) { sctRequest := false })).any fun b =>
          decide (b.acked = some ["b", "a"] ∧ b.ctx.sctContext.scts = ["c", "b", "a"] ∧
            b.ctx.state = .attached ∧ b.ctx.sctContext.callback = none ∧ b.ctx.requests = []))
      (attachWithTokens ++ [.addToken "c" true {}]) (by decide +kernel)
    obtain ⟨hlate, hstep⟩ := Bool.and_eq_true_iff.mp hp
    cases hb : sctAttacherStep a (.coapDone 0 (some ⟨204, .invalid⟩) { sctRequest := false }) with
    | none =>
      rw [hb] at hstep
      cases hstep
    | some b =>
      rw [hb] at hstep
      exact ⟨a, b, hr, hb, hlate, of_decide_eq_true hstep⟩

end NabtoDevice
