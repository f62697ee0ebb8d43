import NabtoDevice.Sanity.Attacher
import NabtoDevice.Sanity.AttacherCases

/-! The attacher as a relation on `AttacherView`: what an event can do to the states of the
module and of the procedure, to the timers, the resolver, the requests and the DTLS
connection. Which record mbedtls sends, which packet the CoAP client retransmits and how
many redirects have been followed is left open. `moves_step` says that every step of the
attacher is one of these moves, so an invariant of the moves holds in all its runs. -/

namespace NabtoDevice

def NcAttacherAttachState.isConnected : NcAttacherAttachState → Bool
  | .dtlsAttachRequest | .redirect | .attached => true
  | _ => false

variable {v v' : AttacherView} {e : AttacherEvent}

namespace AttacherView

def lose (v : AttacherView) : AttacherView := { v.drop with told := true }

inductive TellsClosed (v : AttacherView) : AttacherView → Prop
  | shut (hm : v.moduleState = .closed) :
      TellsClosed v { v with told := true, state := .closed, closeEv := true }
  | denied (hm : v.moduleState ≠ .closed) (hs : v.state = .accessDeniedWait) : TellsClosed v v.lose
  | wait (hm : v.moduleState ≠ .closed) (hatt : v.state ≠ .attached) :
      TellsClosed v { v.lose with state := .retryWait, timer := true }
  | detach (hm : v.moduleState ≠ .closed) (hs : v.state = .attached) :
      TellsClosed v
        { v.lose with state := .retryWait, timer := true, notified := v.notified ++ [.detached] }
  | follow (hm : v.moduleState ≠ .closed) (hs : v.state = .redirect) :
      TellsClosed v { v.lose with state := .dns, dnsPending := v.dnsPending + 1 }

/-- `dtls_cli_close`. The event comes later if a record is still being sent. -/
inductive Closes (v : AttacherView) : AttacherView → Prop
  | already (h : v.ssl = .closing) : Closes v v
  | sending (h : v.ssl ≠ .closing) : Closes v { v with ssl := .closing }
  | tells (h : v.ssl ≠ .closing) {v' : AttacherView}
      (ht : TellsClosed { v with ssl := .closing } v') :
      Closes v v'

inductive Uploads (v : AttacherView) : AttacherView → Prop
  | nothing : Uploads v v
  | upload (hcb : v.sctCallback = none) (scts : List String) :
      Uploads v
        { v with requests := v.requests ++ [⟨.sctUpload scts, false⟩], sctCallback := some .sct }

inductive GoesOn (v : AttacherView) : AttacherView → Prop
  | fail {v' : AttacherView} (hc : Closes v v') : GoesOn v v'
  | upload (hcb : v.sctCallback = none) (scts : List String) :
      GoesOn v
        { v with requests := v.requests ++
          [⟨.sctUpload scts, false⟩], sctCallback := some .attachSct }
  | request : GoesOn v { v with requests := v.requests ++ [⟨.attachEnd, false⟩] }
  | redirect {v' : AttacherView} (hc : Closes { v with state := .redirect } v') : GoesOn v v'
  | attach {v' : AttacherView}
      (hu : Uploads
        { v with state := .attached, keepAlive := true, notified := v.notified ++
          [.attached] } v') :
      GoesOn v v'

/-- A request without a connection may complete while the DTLS client is reset. -/
inductive InReset (v : AttacherView) : AttacherView → Prop
  | nothing : InReset v v
  | fails {i : ℕ} {r : CoapClientRequest} (hi : v.requests[i]? = some r) {v' : AttacherView}
      (hc : Closes (v.complete i r) v') : InReset v v'
  | completes {i : ℕ} {r : CoapClientRequest} (hi : v.requests[i]? = some r) :
      InReset v (v.complete i r)

inductive Reads (v : AttacherView) : Option NpDtlsCliEvent → AttacherView → Prop
  | nothing : Reads v none v
  | eof (h : v.ssl = .data) : Reads v none { v with ssl := .closing }
  | closed (h : v.ssl ≠ .closing) {v' : AttacherView}
      (ht : TellsClosed { v with ssl := .closing } v') :
      Reads v (some .closed) v'
  | shut (h : v.ssl ≠ .closing) (hm : v.moduleState = .closed) {ssl : SslState}
      (hssl : ssl ≠ .connecting) :
      Reads v (some .accessDenied)
        { v with ssl := ssl, told := true, state := .closed, closeEv := true }
  | denied (h : v.ssl ≠ .closing) (hm : v.moduleState ≠ .closed) {ssl : SslState}
      (hssl : ssl ≠ .connecting) {v' : AttacherView}
      (hr : InReset (lose { v with ssl := ssl }) v') :
      Reads v (some .accessDenied) { v' with state := .accessDeniedWait, timer := true }
  | refuse (h : v.ssl = .connecting) {v' : AttacherView} (hc : Closes { v with ssl := .data } v') :
      Reads v (some .handshakeComplete) v'
  | request (h : v.ssl = .connecting) (hm : v.moduleState ≠ .closed) :
      Reads v (some .handshakeComplete)
        { v with ssl := .data, requests := v.requests ++ [⟨.attachStart, false⟩] }

inductive ShutsDown (v : AttacherView) : AttacherView → Prop
  | setup (hm : v.moduleState = .setup) : ShutsDown v { v with closeEv := true }
  | waiting (hm : v.moduleState ≠ .setup)
      (hs : v.state = .retryWait ∨ v.state = .accessDeniedWait) :
      ShutsDown v
        { v with moduleState := .closed, timer := false, state := .closed, closeEv := true }
  | again (hm : v.moduleState ≠ .setup) (hs : v.state = .closed) :
      ShutsDown v { v with moduleState := .closed, closeEv := true }
  | connected (hm : v.moduleState ≠ .setup)
      (hs : v.state = .dtlsAttachRequest ∨ v.state = .attached)
      {v' : AttacherView} (hc : Closes { v with moduleState := .closed } v') : ShutsDown v v'
  | later (hm : v.moduleState ≠ .setup) (hs : v.state = .dns ∨ v.state = .redirect) :
      ShutsDown v { v with moduleState := .closed }

def mayRest : AttacherEvent → Bool
  | .start | .addToken _ _ _ | .startSend _ _ | .coapSend => true
  | _ => false

inductive Moves (v : AttacherView) : AttacherEvent → AttacherView → Prop
  | rest {e : AttacherEvent} (he : mayRest e = true) : Moves v e v
  | start (hm : v.moduleState = .setup) :
      Moves v .start { v with
        moduleState := .running, state := .dns, dnsPending := v.dnsPending + 1 }
  | asyncClose {env : AttacherEnv} {v' : AttacherView}
      (hd : ShutsDown { v with closedCb := true } v') :
      Moves v (.asyncClose env) v'
  | stop {env : AttacherEnv} {v' : AttacherView} (hd : ShutsDown { v with keepAlive := false } v') :
      Moves v (.stop env) v'
  | addToken {token : String} {inserted : Bool} {env : AttacherEnv} {v' : AttacherView}
      (hs : v.state = .attached) (hu : Uploads v v') : Moves v (.addToken token inserted env) v'
  | resolvedLate {ok : Bool} {env : AttacherEnv} (hp : 0 < v.dnsPending)
      (hm : v.moduleState = .closed) :
      Moves v (.dnsResolved ok env)
        { v with dnsPending := v.dnsPending - 1, state := .closed, closeEv := true }
  | resolveFailed {ok : Bool} {env : AttacherEnv} (hp : 0 < v.dnsPending)
      (hm : v.moduleState ≠ .closed) :
      Moves v (.dnsResolved ok env)
        { v with dnsPending := v.dnsPending - 1, state := .retryWait, timer := true }
  | connect {ok : Bool} {env : AttacherEnv} {ev : Option NpDtlsCliEvent} {v' : AttacherView}
      (hp : 0 < v.dnsPending) (hm : v.moduleState ≠ .closed)
      (hr : Reads { v with dnsPending := v.dnsPending - 1, state := .dtlsAttachRequest
                           ssl := .connecting, connects := v.connects + 1, told := false } ev v') :
      Moves v (.dnsResolved ok env) v'
  | packet {env : AttacherEnv} {v' : AttacherView} (hm : v.moduleState ≠ .setup)
      (hr : Reads v (doOneEvent v.ssl env) v') : Moves v (.packet env) v'
  | dtlsTimer {env : AttacherEnv} {v' : AttacherView} (hr : Reads v (doOneEvent v.ssl env) v') :
      Moves v (.dtlsTimer env) v'
  | udpSent {coalesced : ℕ} {env : AttacherEnv} {v' : AttacherView} (h : v.ssl ≠ .closing)
      (hr : Reads v (doOneEvent v.ssl env) v') : Moves v (.udpSent coalesced env) v'
  | udpSentLast {coalesced : ℕ} {env : AttacherEnv} {v' : AttacherView} (h : v.ssl = .closing)
      (ht : TellsClosed v v') : Moves v (.udpSent coalesced env) v'
  | fails {i : ℕ} {res : Option CoapClientResponse} {env : AttacherEnv} {r : CoapClientRequest}
      {v' : AttacherView} (hi : v.requests[i]? = some r) (ha : ofAttach v.sctCallback r = true)
      (hc : Closes (v.complete i r) v') : Moves v (.coapDone i res env) v'
  | goesOn {i : ℕ} {res : Option CoapClientResponse} {env : AttacherEnv} {r : CoapClientRequest}
      {v' : AttacherView} (hi : v.requests[i]? = some r) (ha : ofAttach v.sctCallback r = true)
      (hr : r.removed = false) (hm : v.moduleState ≠ .closed) (hg : GoesOn (v.complete i r) v') :
      Moves v (.coapDone i res env) v'
  | synchronizes {i : ℕ} {res : Option CoapClientResponse} {env : AttacherEnv}
      {r : CoapClientRequest} {v' : AttacherView} (hi : v.requests[i]? = some r)
      (ha : ofAttach v.sctCallback r = false) (hr : r.removed = true → v' = v.complete i r)
      (hu : Uploads (v.complete i r) v') : Moves v (.coapDone i res env) v'
  | tick {env : AttacherEnv} (hk : v.keepAlive = true) : Moves v (.keepAlive env) v
  | timeout {env : AttacherEnv} {v' : AttacherView} (hk : v.keepAlive = true) {armed : Bool}
      (hc : Closes { v with keepAlive := armed } v') : Moves v (.keepAlive env) v'
  | reattach (ht : v.timer = true) (hm : v.moduleState ≠ .closed) :
      Moves v .reattach { v with timer := false, state := .dns, dnsPending := v.dnsPending + 1 }
  | reattachLate (ht : v.timer = true) (hm : v.moduleState = .closed) :
      Moves v .reattach { v with timer := false, state := .closed, closeEv := true }
  | closeEv (hc : v.closeEv = true) :
      Moves v .closeEv { v with timer := false, closeEv := false, closedCb := false }

/-! ## What the moves leave alone -/

/-- What only the caller of the module and the resolver change. -/
def SameModule (v v' : AttacherView) : Prop :=
  v'.moduleState = v.moduleState ∧ v'.closedCb = v.closedCb ∧ v'.connects = v.connects

theorem TellsClosed.sameModule (h : TellsClosed v v') : SameModule v v' := by
  cases h with
  | shut | denied | wait | detach | follow => exact ⟨rfl, rfl, rfl⟩

theorem Closes.sameModule (h : Closes v v') : SameModule v v' := by
  cases h with
  | already | sending => exact ⟨rfl, rfl, rfl⟩
  | tells _ ht => exact ht.sameModule

theorem Uploads.sameModule (h : Uploads v v') : SameModule v v' := by
  cases h with
  | nothing | upload => exact ⟨rfl, rfl, rfl⟩

theorem GoesOn.sameModule (h : GoesOn v v') : SameModule v v' := by
  cases h with
  | upload | request => exact ⟨rfl, rfl, rfl⟩
  | fail hc => exact hc.sameModule
  | redirect hc => exact hc.sameModule
  | attach hu => exact hu.sameModule

theorem InReset.sameModule (h : InReset v v') : SameModule v v' := by
  cases h with
  | nothing | completes => exact ⟨rfl, rfl, rfl⟩
  | fails _ hc => exact hc.sameModule

theorem Reads.sameModule {ev : Option NpDtlsCliEvent} (h : Reads v ev v') : SameModule v v' := by
  cases h with
  | nothing | eof | shut | request => exact ⟨rfl, rfl, rfl⟩
  | closed _ ht => exact ht.sameModule
  | denied _ _ _ hr => exact hr.sameModule
  | refuse _ hc => exact hc.sameModule

theorem ShutsDown.setup_of_setup (h : ShutsDown v v') (hm : v'.moduleState = .setup) :
    v.moduleState = .setup := by
  cases h with
  | setup hs => exact hs
  | waiting | again | later => cases hm
  | connected _ _ hc => cases hc.sameModule.1.symm.trans hm

/-- The module does not get back to `SETUP`. -/
theorem Moves.setup_of_setup (h : Moves v e v') (hm : v'.moduleState = .setup) :
    v.moduleState = .setup := by
  cases h with
  | rest | tick | closeEv | resolvedLate | resolveFailed | reattach | reattachLate => exact hm
  | start => cases hm
  | asyncClose hd =>
    have hsetup := hd.setup_of_setup hm
    exact hsetup
  | stop hd =>
    have hsetup := hd.setup_of_setup hm
    exact hsetup
  | addToken _ hu => exact hu.sameModule.1.symm.trans hm
  | connect _ _ hr => exact hr.sameModule.1.symm.trans hm
  | packet _ hr | dtlsTimer hr | udpSent _ hr => exact hr.sameModule.1.symm.trans hm
  | udpSentLast _ ht => exact ht.sameModule.1.symm.trans hm
  | fails _ _ hc => exact hc.sameModule.1.symm.trans hm
  | goesOn _ _ _ _ hg => exact hg.sameModule.1.symm.trans hm
  | synchronizes _ _ _ hu => exact hu.sameModule.1.symm.trans hm
  | timeout _ hc => exact hc.sameModule.1.symm.trans hm

/-- Without a connection no request gets one, and a running module is not told to close. -/
theorem TellsClosed.allRemoved (h : TellsClosed v v') (hm : v.moduleState ≠ .closed) :
    v'.AllRemoved ∧ v'.keepAlive = false ∧ v'.closeEv = v.closeEv ∧ v'.ssl = v.ssl := by
  cases h with
  | shut hc => exact absurd hc hm
  | denied | wait | detach | follow => exact ⟨v.drop_allRemoved, rfl, rfl, rfl⟩

theorem AllRemoved.complete (h : v.AllRemoved) (i : ℕ) (r : CoapClientRequest) :
    (v.complete i r).AllRemoved := by
  intro q hq
  exact h q (List.mem_of_mem_eraseIdx hq)

theorem Closes.allRemoved (h : Closes v v') (hm : v.moduleState ≠ .closed) (hrem : v.AllRemoved)
    (hka : v.keepAlive = false) (hssl : v.ssl ≠ .connecting) :
    v'.AllRemoved ∧ v'.keepAlive = false ∧ v'.closeEv = v.closeEv ∧ v'.ssl ≠ .connecting := by
  cases h with
  | already => exact ⟨hrem, hka, rfl, hssl⟩
  | sending => exact ⟨hrem, hka, rfl, by simp⟩
  | tells _ ht =>
    obtain ⟨hrem', hka', hev, hclosing⟩ := ht.allRemoved hm
    exact ⟨hrem', hka', hev, by simp [hclosing]⟩

theorem InReset.allRemoved (h : InReset v v') (hm : v.moduleState ≠ .closed) (hrem : v.AllRemoved)
    (hka : v.keepAlive = false) (hssl : v.ssl ≠ .connecting) :
    v'.AllRemoved ∧ v'.keepAlive = false ∧ v'.closeEv = v.closeEv ∧ v'.ssl ≠ .connecting := by
  cases h with
  | nothing => exact ⟨hrem, hka, rfl, hssl⟩
  | completes => exact ⟨hrem.complete _ _, hka, rfl, hssl⟩
  | fails _ hc => exact hc.allRemoved hm (hrem.complete _ _) hka hssl

/-! ## A closed module -/

/-- A closed module tells the listener nothing, does not connect and enters no state but
`CLOSED`; `resolved` of its resolutions complete. -/
def WindsDown (resolved : ℕ) (v v' : AttacherView) : Prop :=
  v'.moduleState = .closed ∧ v'.notified = v.notified ∧ v'.connects = v.connects ∧
    (v'.state = v.state ∨ v'.state = .closed) ∧ v'.dnsPending + resolved = v.dnsPending

theorem TellsClosed.windsDown (h : TellsClosed v v') (hm : v.moduleState = .closed) :
    WindsDown 0 v v' := by
  cases h with
  | shut => exact ⟨hm, rfl, rfl, Or.inr rfl, rfl⟩
  | denied hne | wait hne | detach hne | follow hne => exact absurd hm hne

theorem Closes.windsDown (h : Closes v v') (hm : v.moduleState = .closed) : WindsDown 0 v v' := by
  cases h with
  | already | sending => exact ⟨hm, rfl, rfl, Or.inl rfl, rfl⟩
  | tells _ ht => exact ht.windsDown hm

theorem Uploads.windsDown (h : Uploads v v') (hm : v.moduleState = .closed) : WindsDown 0 v v' := by
  cases h with
  | nothing | upload => exact ⟨hm, rfl, rfl, Or.inl rfl, rfl⟩

theorem Reads.windsDown {ev : Option NpDtlsCliEvent} (h : Reads v ev v')
    (hm : v.moduleState = .closed) : WindsDown 0 v v' := by
  cases h with
  | nothing | eof => exact ⟨hm, rfl, rfl, Or.inl rfl, rfl⟩
  | shut => exact ⟨hm, rfl, rfl, Or.inr rfl, rfl⟩
  | denied _ hne | request _ hne => exact absurd hm hne
  | closed _ ht => exact ht.windsDown hm
  | refuse _ hc => exact hc.windsDown hm

theorem ShutsDown.windsDown (h : ShutsDown v v') (hm : v.moduleState ≠ .setup) :
    WindsDown 0 v v' := by
  cases h with
  | setup hs => exact absurd hs hm
  | waiting => exact ⟨rfl, rfl, rfl, Or.inr rfl, rfl⟩
  | again | later => exact ⟨rfl, rfl, rfl, Or.inl rfl, rfl⟩
  | connected _ _ hc => exact hc.windsDown rfl

theorem ShutsDown.not_running (h : ShutsDown v v') (hm : v.moduleState ≠ .setup) :
    v'.moduleState ≠ .running := by
  rw [(h.windsDown hm).1]
  simp

def resolved : AttacherEvent → ℕ
  | .dnsResolved _ _ => 1
  | _ => 0

theorem Moves.windsDown (h : Moves v e v') (hm : v.moduleState = .closed) :
    WindsDown (resolved e) v v' := by
  cases h with
  | @rest e he =>
    have hnone : resolved e = 0 := by
      cases e with
      | dnsResolved => cases he
      | _ => rfl
    exact ⟨hm, rfl, rfl, Or.inl rfl, by rw [hnone]; rfl⟩
  | start hs => cases hm.symm.trans hs
  | asyncClose hd => exact hd.windsDown (by simp [hm])
  | stop hd => exact hd.windsDown (by simp [hm])
  | addToken _ hu => exact hu.windsDown hm
  | resolvedLate hp => exact ⟨hm, rfl, rfl, Or.inr rfl, Nat.sub_add_cancel hp⟩
  | resolveFailed _ hne | connect _ hne | goesOn _ _ _ hne => exact absurd hm hne
  | packet _ hr | dtlsTimer hr | udpSent _ hr => exact hr.windsDown hm
  | udpSentLast _ ht => exact ht.windsDown hm
  | fails _ _ hc => exact hc.windsDown hm
  | synchronizes _ _ _ hu => exact hu.windsDown hm
  | tick => exact ⟨hm, rfl, rfl, Or.inl rfl, rfl⟩
  | timeout _ hc => exact hc.windsDown hm
  | reattach _ hne => exact absurd hm hne
  | reattachLate => exact ⟨hm, rfl, rfl, Or.inr rfl, rfl⟩
  | closeEv => exact ⟨hm, rfl, rfl, Or.inl rfl, rfl⟩

end AttacherView

open AttacherView

/-! ## The functions of the attacher -/

variable (ctx : NcAttachContext)

theorem view_recordDtlsEvent (event : NpDtlsCliEvent) :
    view (recordDtlsEvent ctx event) =
      { view ctx with told := (view ctx).told || event.isTerminal } := by
  simp [view, recordDtlsEvent]

theorem view_giveUp_closed : view (giveUp (recordDtlsEvent ctx .closed)) = (view ctx).lose := by
  rw [view_giveUp, view_recordDtlsEvent, NpDtlsCliEvent.isTerminal, Bool.or_true]
  rfl

theorem tellsClosed_dtlsEventClosed : TellsClosed (view ctx) (view (dtlsEventClosed ctx)) := by
  by_cases hm : ctx.moduleState = .closed
  · have heq : dtlsEventClosed ctx =
        handleStateChange { recordDtlsEvent ctx .closed with state := .closed } := if_pos hm
    have hv : view (dtlsEventClosed ctx) =
        { view ctx with told := true, state := .closed, closeEv := true } := by
      rw [heq]
      simp [view, recordDtlsEvent, handleStateChange, NpDtlsCliEvent.isTerminal]
    rw [hv]
    exact .shut hm
  · have heq : dtlsEventClosed ctx = dtlsClosedSwitch (giveUp (recordDtlsEvent ctx .closed)) :=
      if_neg hm
    have hgive := view_giveUp_closed ctx
    have hs : (giveUp (recordDtlsEvent ctx .closed)).state = ctx.state :=
      congrArg AttacherView.state hgive
    rw [heq]
    generalize giveUp (recordDtlsEvent ctx .closed) = lost at hgive hs
    -- the next state is entered from `lost`, which shows the lost connection
    have hwait (notes : List NcDeviceEvent) :
        view (handleStateChange { lost with state := .retryWait, trace := notes }) =
          { (view ctx).lose with state := .retryWait, timer := true, notified := notes } := by
      rw [← hgive]
      rfl
    have htrace : lost.trace = (view ctx).notified := congrArg AttacherView.notified hgive
    unfold dtlsClosedSwitch
    cases hstate : lost.state with
    | accessDeniedWait =>
      dsimp only
      rw [hgive]
      exact .denied hm (hs.symm.trans hstate)
    | redirect =>
      dsimp only
      split_ifs
      · rw [hwait lost.trace, htrace]
        exact .wait hm (by rw [show (view ctx).state = _ from hs.symm.trans hstate]; simp)
      · have hdns : view (handleStateChange { lost with state := .dns }) =
            { (view ctx).lose with state := .dns, dnsPending := (view ctx).dnsPending + 1 } := by
          show { view lost with state := .dns, dnsPending := (view lost).dnsPending + 1 } = _
          rw [hgive]
          rfl
        rw [hdns]
        exact .follow hm (hs.symm.trans hstate)
    | dns | dtlsAttachRequest | retryWait | closed =>
      dsimp only
      rw [hwait lost.trace, htrace]
      exact .wait hm (by rw [show (view ctx).state = _ from hs.symm.trans hstate]; simp)
    | attached =>
      dsimp only
      rw [hwait (lost.trace ++ [NcDeviceEvent.detached]), htrace]
      exact .detach hm (hs.symm.trans hstate)

variable (env : AttacherEnv)

theorem closes_dtlsCliClose : Closes (view ctx) (view (dtlsCliClose ctx env)) := by
  rcases dtlsCliClose_cases ctx env with ⟨heq, hc⟩ | ⟨hne, d, hd, heq | heq⟩
  · rw [heq]
    exact .already hc
  · have hv : view { ctx with dtls := d } = { view ctx with ssl := .closing } := by
      rw [← hd]
      rfl
    rw [heq, hv]
    exact .sending hne
  · have hv : view { ctx with dtls := d } = { view ctx with ssl := .closing } := by
      rw [← hd]
      rfl
    have ht := tellsClosed_dtlsEventClosed { ctx with dtls := d }
    rw [hv] at ht
    rw [heq]
    exact .tells hne ht

theorem uploads_sendSctRequest : Uploads (view ctx) (view (sendSctRequest ctx env)) := by
  unfold sendSctRequest ncAttacherSctUpload
  dsimp only
  split_ifs with hversion hcb hsent
  · exact .nothing
  · exact .nothing
  · exact .nothing
  · exact .upload (not_not.mp hcb) _

theorem goesOn_sendAttachEndRequest : GoesOn (view ctx) (view (sendAttachEndRequest ctx env)) := by
  unfold sendAttachEndRequest ncAttacherAttachEndRequest
  split_ifs
  · exact .fail (closes_dtlsCliClose ctx env)
  · exact .fail (closes_dtlsCliClose ctx env)
  · exact .request

theorem goesOn_sendAttachSctRequest : GoesOn (view ctx) (view (sendAttachSctRequest ctx env)) := by
  unfold sendAttachSctRequest ncAttacherSctUpload
  dsimp only
  split_ifs with hversion hcb hsent
  · exact goesOn_sendAttachEndRequest ctx env
  · exact .fail (closes_dtlsCliClose ctx env)
  · exact .fail (closes_dtlsCliClose ctx env)
  · exact .upload (not_not.mp hcb) _

theorem goesOn_of_proceeds {env : AttacherEnv} {ctx ctx' : NcAttachContext}
    (h : Proceeds env ctx ctx') : GoesOn (view ctx) (view ctx') := by
  cases h with
  | started => exact goesOn_sendAttachSctRequest ctx env
  | redirected =>
    exact .redirect (closes_dtlsCliClose
      { ctx with state := .redirect, redirectAttempts := ctx.redirectAttempts + 1 } env)
  | synchronized => exact goesOn_sendAttachEndRequest ctx env
  | attached =>
    have hup := uploads_sendSctRequest { ctx with
      keepAlive := ncKeepAliveWait ctx.keepAlive, state := .attached
      trace := ctx.trace ++ [.attached] } env
    exact .attach hup

theorem moves_coapRequestDone {ctx ctx' : NcAttachContext} {i : ℕ}
    {res : Option CoapClientResponse} {env : AttacherEnv}
    (h : coapRequestDone ctx i res env = some ctx') :
    Moves (view ctx) (.coapDone i res env) (view ctx') := by
  obtain ⟨r, hi, ctx₁, hc, hcase⟩ := coapRequestDone_cases h
  have hv := hc.view
  rcases hcase with ⟨ha, rfl⟩ | ⟨ha, hr, hm, hp⟩ | ⟨ha, rfl | ⟨hr, rfl⟩⟩
  · have hclose := closes_dtlsCliClose ctx₁ env
    rw [hv] at hclose
    exact .fails hi ha hclose
  · have hgoes := goesOn_of_proceeds hp
    rw [hv] at hgoes
    exact .goesOn hi ha hr hm hgoes
  · rw [hv]
    exact .synchronizes hi ha (fun _ => rfl) .nothing
  · have hup := uploads_sendSctRequest ctx₁ env
    rw [hv] at hup
    exact .synchronizes hi ha (fun hremoved => by rw [hr] at hremoved; cases hremoved) hup

theorem inReset_coapCompleteInReset {ctx : NcAttachContext} (hrem : (view ctx).AllRemoved)
    (env : AttacherEnv) : InReset (view ctx) (view (coapCompleteInReset ctx env)) := by
  unfold coapCompleteInReset
  cases env.completesInReset with
  | none => exact .nothing
  | some i =>
    dsimp only
    split_ifs
    · cases hdone : coapRequestDone ctx i none env with
      | none => exact .nothing
      | some ctx' =>
        obtain ⟨r, hi, ctx₁, hc, hcase⟩ := coapRequestDone_cases hdone
        have hv := hc.view
        have hremoved : r.removed = true := hrem r (List.mem_of_getElem? hi)
        rcases hcase with ⟨-, rfl⟩ | ⟨-, hr, -⟩ | ⟨-, rfl | ⟨hr, -⟩⟩
        · have hclose := closes_dtlsCliClose ctx₁ env
          rw [hv] at hclose
          exact .fails hi hclose
        · cases hr.symm.trans hremoved
        · rw [Option.getD_some, hv]
          exact .completes hi
        · cases hr.symm.trans hremoved
    · exact .nothing

theorem reads_accessDenied (v : AttacherView) (h : v.ssl ≠ .closing)
    (hv : view ctx = { v with ssl := ctx.dtls.state }) (hssl : ctx.dtls.state ≠ .connecting) :
    Reads v (some .accessDenied) (view (dtlsEventHandler ctx .accessDenied env)) := by
  have hrec : view (recordDtlsEvent ctx .accessDenied) =
      { v with ssl := ctx.dtls.state, told := true } := by
    rw [view_recordDtlsEvent, hv, NpDtlsCliEvent.isTerminal, Bool.or_true]
  have hmodule : ctx.moduleState = v.moduleState := congrArg AttacherView.moduleState hv
  by_cases hm : ctx.moduleState = .closed
  · have heq : dtlsEventHandler ctx .accessDenied env =
        handleStateChange { recordDtlsEvent ctx .accessDenied with state := .closed } := if_pos hm
    have hview : view (dtlsEventHandler ctx .accessDenied env) =
        { view (recordDtlsEvent ctx .accessDenied) with state := .closed, closeEv := true } := by
      rw [heq]
      rfl
    rw [hview, hrec]
    exact .shut h (hmodule.symm.trans hm) hssl
  · have heq : dtlsEventHandler ctx .accessDenied env = handleDtlsAccessDenied
        { recordDtlsEvent ctx .accessDenied with
          keepAlive := ncKeepAliveReset ctx.keepAlive } env :=
      if_neg hm
    set lost := nabtoCoapClientRemoveConnection
      { recordDtlsEvent ctx .accessDenied with
        keepAlive := ncKeepAliveReset ctx.keepAlive } with hlost
    have hlose : view lost = lose { v with ssl := ctx.dtls.state } := by
      show (view (recordDtlsEvent ctx .accessDenied)).drop = _
      rw [hrec]
      rfl
    have hreset := inReset_coapCompleteInReset
      (show (view lost).AllRemoved from drop_allRemoved
        (view (recordDtlsEvent ctx .accessDenied))) env
    rw [hlose] at hreset
    have hview : view (dtlsEventHandler ctx .accessDenied env) =
        { view (coapCompleteInReset lost env) with state := .accessDeniedWait, timer := true } := by
      rw [heq, ← view_dtlsReset (coapCompleteInReset lost env)]
      rfl
    rw [hview]
    exact .denied h (fun hc => hm (hmodule.trans hc)) hssl hreset

theorem reads_handshakeComplete (v : AttacherView) (h : v.ssl = .connecting)
    (hv : view ctx = { v with ssl := .data }) :
    Reads v (some .handshakeComplete) (view (dtlsEventHandler ctx .handshakeComplete env)) := by
  have hrec : view (recordDtlsEvent ctx .handshakeComplete) = { v with ssl := .data } := by
    rw [view_recordDtlsEvent, hv, NpDtlsCliEvent.isTerminal, Bool.or_false]
  have hclose : Reads v (some .handshakeComplete)
      (view (dtlsCliClose (recordDtlsEvent ctx .handshakeComplete) env)) := by
    have hc := closes_dtlsCliClose (recordDtlsEvent ctx .handshakeComplete) env
    rw [hrec] at hc
    exact .refuse h hc
  have hmodule : ctx.moduleState = v.moduleState := congrArg AttacherView.moduleState hv
  by_cases hm : ctx.moduleState = .closed
  · have heq : dtlsEventHandler ctx .handshakeComplete env =
        dtlsCliClose (recordDtlsEvent ctx .handshakeComplete) env := if_pos hm
    rw [heq]
    exact hclose
  · have heq : dtlsEventHandler ctx .handshakeComplete env =
        handleDtlsConnected (recordDtlsEvent ctx .handshakeComplete) env := if_neg hm
    rw [heq]
    unfold handleDtlsConnected sendAttachStartRequest ncAttacherAttachStartRequest
    split_ifs
    · exact hclose
    · exact hclose
    · exact hclose
    · have hview : view (coapRequestSend
          { recordDtlsEvent ctx .handshakeComplete with startCallback := true } .attachStart) =
          { v with ssl := .data, requests := v.requests ++ [⟨.attachStart, false⟩] } := by
        have hsent : view (coapRequestSend
            { recordDtlsEvent ctx .handshakeComplete with startCallback := true } .attachStart) =
            { view (recordDtlsEvent ctx .handshakeComplete) with
              requests := (view (recordDtlsEvent ctx .handshakeComplete)).requests ++
                [⟨.attachStart, false⟩] } := rfl
        rw [hsent, hrec]
      rw [hview]
      exact .request h fun hc => hm (hmodule.trans hc)

theorem reads_doOne :
    Reads (view ctx) (doOneEvent ctx.dtls.state env) (view (nmDtlsEventDoOne ctx env)) := by
  unfold nmDtlsEventDoOne doOneEvent
  cases hssl : ctx.dtls.state with
  | closing => exact .nothing
  | connecting =>
    have hopen : (view ctx).ssl ≠ .closing := by simp [view, hssl]
    dsimp only
    cases env.handshake with
    | wantReadWrite =>
      have hview : view { ctx with dtls := mbedtlsCall ctx.dtls env.call } = view ctx := by
        simp [view]
      rw [hview]
      exact .nothing
    | accessDenied => exact reads_accessDenied _ env (view ctx) hopen rfl (by simp)
    | error =>
      exact .closed hopen (tellsClosed_dtlsEventClosed { ctx with
        dtls := { mbedtlsCall ctx.dtls env.call with state := .closing, timer := false } })
    | done => exact reads_handshakeComplete _ env (view ctx) hssl rfl
  | data =>
    have hopen : (view ctx).ssl ≠ .closing := by simp [view, hssl]
    dsimp only
    cases env.read with
    | eof => exact .eof hssl
    | wantReadWrite =>
      have hview : view { ctx with dtls := mbedtlsCall ctx.dtls env.call } = view ctx := by
        simp [view]
      rw [hview]
      exact .nothing
    | data buffer =>
      dsimp only
      have hview : view (dtlsDataHandler { ctx with dtls := { mbedtlsCall ctx.dtls env.call with
          recvCount := (mbedtlsCall ctx.dtls env.call).recvCount + 1 } } buffer) = view ctx := by
        rw [view_dtlsDataHandler]
        simp [view]
      rw [hview]
      exact .nothing
    | accessDenied =>
      refine reads_accessDenied _ env (view ctx) hopen rfl ?_
      simp [hssl]
    | error =>
      exact .closed hopen (tellsClosed_dtlsEventClosed { ctx with
        dtls := { mbedtlsCall ctx.dtls env.call with state := .closing, timer := false } })

theorem shutsDown_doClose : ShutsDown (view ctx) (view (doClose ctx env)) := by
  by_cases hm : ctx.moduleState = .setup
  · rw [doClose, if_pos hm]
    exact .setup hm
  have hclose := closes_dtlsCliClose { ctx with moduleState := .closed } env
  cases hs : ctx.state with
  | retryWait | accessDeniedWait =>
    have heq : doClose ctx env = { ctx with
        moduleState := .closed, reattachTimer := false, state := .closed, closeEv := true } := by
      simp [doClose, hm, hs, handleStateChange]
    rw [heq]
    exact .waiting hm (by simp [view, hs])
  | closed =>
    have heq : doClose ctx env = { ctx with moduleState := .closed, closeEv := true } := by
      simp [doClose, hm, hs]
    rw [heq]
    exact .again hm hs
  | dtlsAttachRequest | attached =>
    have heq : doClose ctx env = dtlsCliClose { ctx with moduleState := .closed } env := by
      simp [doClose, hm, hs]
    rw [heq]
    exact .connected hm (by simp [view, hs]) hclose
  | dns | redirect =>
    have heq : doClose ctx env = { ctx with moduleState := .closed } := by
      simp [doClose, hm, hs]
    rw [heq]
    exact .later hm (by simp [view, hs])

/-- Every step of the attacher is a move of its view. -/
theorem moves_step {ctx ctx' : NcAttachContext} (hstep : attacherStep ctx e = some ctx') :
    Moves (view ctx) e (view ctx') := by
  cases attacherCase_of_step hstep with
  | startRefused | coapBusy => exact .rest rfl
  | start hm => exact .start hm
  | asyncClose env => exact .asyncClose (shutsDown_doClose { ctx with closedCb := true } env)
  | stop env =>
    exact .stop (shutsDown_doClose { ctx with keepAlive := ncKeepAliveStop ctx.keepAlive } env)
  | addToken token inserted env =>
    obtain ⟨sct, hcb, hcase⟩ := addToken_cases ctx token inserted env
    have hview : view { ctx with sctContext := sct } = view ctx := by simp [view, hcb]
    rcases hcase with heq | ⟨hs, heq⟩
    · rw [heq, hview]
      exact .rest rfl
    · have hup := uploads_sendSctRequest { ctx with sctContext := sct } env
      rw [hview] at hup
      rw [heq]
      exact .addToken hs hup
  | resolvedLate ok env hp hm => exact .resolvedLate hp hm
  | resolveFailed env hp hm => exact .resolveFailed hp hm
  | resolved env hp hm =>
    have hread := reads_doOne (handleStateChange
      { ctx with dnsPending := ctx.dnsPending - 1, state := .dtlsAttachRequest }) env
    exact .connect hp hm hread
  | packet env hm => exact .packet hm (reads_doOne ctx env)
  | timerClosing env hclosing =>
    have hnone : doOneEvent (view ctx).ssl env = none := by
      rw [show (view ctx).ssl = .closing from hclosing, doOneEvent]
    exact .dtlsTimer (hnone ▸ .nothing)
  | timer env =>
    exact .dtlsTimer (reads_doOne { ctx with dtls := { ctx.dtls with timer := false } } env)
  | udpSentLast coalesced env hclosing =>
    exact .udpSentLast hclosing (tellsClosed_dtlsEventClosed { ctx with dtls := { ctx.dtls with
      udpSends := ctx.dtls.udpSends - (coalesced + 1)
      sending := false, sslSendBuffer := false, timer := false } })
  | udpSent coalesced env hopen =>
    exact .udpSent hopen (reads_doOne { ctx with dtls := { ctx.dtls with
      udpSends := ctx.dtls.udpSends - (coalesced + 1), sending := false,
        sslSendBuffer := false } } env)
  | startSend ret call =>
    rw [view_startSendDeferred]
    exact .rest rfl
  | coapSend =>
    have hview : view { ctx with coapIsSending := true, dtls := asyncSendData ctx.dtls .coap } =
        view ctx := by
      simp [view]
    rw [hview]
    exact .rest rfl
  | coapDone hdone => exact moves_coapRequestDone hdone
  | keepAlive env hk =>
    rcases keepAliveEvent_cases
      { ctx with keepAlive := { ctx.keepAlive with armed := false } } env with
      ⟨ka, d, hka, hd, heq⟩ | ⟨ka, heq⟩
    · have hview : view { ctx with keepAlive := ka, dtls := d } = view ctx := by
        simp [view, hka, hd, hk]
      rw [heq, hview]
      exact .tick hk
    · rw [heq]
      exact .timeout hk (closes_dtlsCliClose { ctx with keepAlive := ka } env)
  | reattachLate ht hm => exact .reattachLate ht hm
  | reattach ht hm => exact .reattach ht hm
  | closeEv hc => exact .closeEv hc

end NabtoDevice
