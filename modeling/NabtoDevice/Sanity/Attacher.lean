import NabtoDevice.Spec.AttachRequests
import Mathlib.Data.List.Basic
import Mathlib.Tactic.Common

/-! The part of the attacher's context that decides what it does next. `AttacherView` is that
part, `Orderly` the relation its fields keep while the module runs: one activity at a time.
The second half says how the functions of the module end, as far as the view shows it. -/

namespace NabtoDevice

structure AttacherView where
  moduleState : NcAttacherModuleState
  state : NcAttacherAttachState
  timer : Bool
  dnsPending : ℕ
  requests : List CoapClientRequest
  sctCallback : Option NcAttacherSctCallback
  ssl : SslState
  keepAlive : Bool
  /-- What the listener has received. -/
  notified : List NcDeviceEvent
  closeEv : Bool
  closedCb : Bool
  connects : ℕ
  /-- The DTLS connection has delivered a terminal event. -/
  told : Bool

def view (ctx : NcAttachContext) : AttacherView where
  moduleState := ctx.moduleState
  state := ctx.state
  timer := ctx.reattachTimer
  dnsPending := ctx.dnsPending
  requests := ctx.requests
  sctCallback := ctx.sctContext.callback
  ssl := ctx.dtls.state
  keepAlive := ctx.keepAlive.armed
  notified := ctx.trace
  closeEv := ctx.closeEv
  closedCb := ctx.closedCb
  connects := ctx.dtlsConnects
  told := ctx.dtlsEvents.any NpDtlsCliEvent.isTerminal

/-- The request belongs to the attach procedure, that is it was not sent to
upload tokens from the state `ATTACHED`. -/
def ofAttach (sctCallback : Option NcAttacherSctCallback) (r : CoapClientRequest) : Bool :=
  match r.kind with
  | .attachStart => true
  | .sctUpload _ => sctCallback = some .attachSct
  | .attachEnd => true

def isSctUpload (r : CoapClientRequest) : Bool :=
  match r.kind with
  | .sctUpload _ => true
  | _ => false

variable {v : AttacherView} {i : ℕ} {r : CoapClientRequest}

namespace AttacherView

/-- Requests of the attach procedure that can still get a response. -/
def live (v : AttacherView) : List CoapClientRequest :=
  v.requests.filter fun r => !r.removed && ofAttach v.sctCallback r

structure Orderly (v : AttacherView) : Prop where
  timer : v.timer = true → v.state = .retryWait ∨ v.state = .accessDeniedWait
  dns : v.dnsPending ≤ if v.state = .dns then 1 else 0
  live : v.live ≠ [] → v.state = .dtlsAttachRequest ∧ v.ssl ≠ .connecting
  single : v.live.length ≤ 1
  sct : (v.requests.filter isSctUpload).length ≤ if v.sctCallback.isSome then 1 else 0
  redirect : v.state = .redirect → v.ssl = .closing
  keepAlive : v.keepAlive = true → v.state = .attached

def AllRemoved (v : AttacherView) : Prop := ∀ r ∈ v.requests, r.removed = true

theorem live_of_allRemoved (h : v.AllRemoved) : v.live = [] := by
  unfold live
  rw [List.filter_eq_nil_iff]
  intro r hr
  simp [h r hr]

def drop (v : AttacherView) : AttacherView :=
  { v with requests := v.requests.map fun r => { r with removed := true }, keepAlive := false }

theorem drop_allRemoved (v : AttacherView) : v.drop.AllRemoved := by
  intro r hr
  obtain ⟨q, -, rfl⟩ := List.mem_map.mp hr
  rfl

theorem filter_sct_removed (rs : List CoapClientRequest) :
    ((rs.map fun r => { r with removed := true }).filter isSctUpload).length =
      (rs.filter isSctUpload).length := by
  induction rs with
  | nil => rfl
  | cons r rs ih =>
    have hr : isSctUpload { r with removed := true } = isSctUpload r := rfl
    simp only [List.map_cons, List.filter_cons, hr]
    split_ifs
    · simp only [List.length_cons, ih]
    · exact ih

theorem Orderly.drop (h : v.Orderly) : v.drop.Orderly where
  timer := h.timer
  dns := h.dns
  live hl := absurd (live_of_allRemoved v.drop_allRemoved) hl
  single := by simp [live_of_allRemoved v.drop_allRemoved]
  sct := by
    show (List.filter isSctUpload (v.requests.map _)).length ≤ _
    rw [filter_sct_removed]
    exact h.sct
  redirect := h.redirect
  keepAlive hk := by cases hk

theorem Orderly.dns_idle (h : v.Orderly) (hs : v.state ≠ .dns) : v.dnsPending = 0 := by
  have := h.dns
  rw [if_neg hs] at this
  omega

/-- Into one of the two waiting states, with the reattach timer armed. -/
theorem Orderly.wait {s : NcAttacherAttachState} (h : v.Orderly)
    (hs : s = .retryWait ∨ s = .accessDeniedWait)
    (hlive : v.live = []) (hdns : v.dnsPending = 0) (hka : v.keepAlive = false) :
    Orderly { v with state := s, timer := true } := by
  refine ⟨fun _ => hs, by simp [hdns], fun hl => absurd hlive hl, h.single, h.sct, ?_,
    by simp [hka]⟩
  rcases hs with rfl | rfl <;> simp

/-- A new resolution is started from a state that has none. -/
theorem Orderly.resolve (h : v.Orderly) (hlive : v.live = []) (hdns : v.state ≠ .dns)
    (hka : v.keepAlive = false) :
    Orderly { v with timer := false, state := .dns, dnsPending := v.dnsPending + 1 } := by
  have hidle := h.dns_idle hdns
  exact ⟨nofun, by simp [hidle], fun hl => absurd hlive hl, h.single, h.sct, nofun, by simp [hka]⟩

theorem Orderly.keepAlive_off (h : v.Orderly) (hs : v.state ≠ .attached) : v.keepAlive = false := by
  by_contra hk
  exact hs (h.keepAlive (by simpa using hk))

theorem Orderly.timer_off (h : v.Orderly) (h1 : v.state ≠ .retryWait)
    (h2 : v.state ≠ .accessDeniedWait) : v.timer = false := by
  by_contra ht
  rcases h.timer (by simpa using ht) with hs | hs
  · exact h1 hs
  · exact h2 hs

theorem Orderly.withSsl (h : v.Orderly) (ssl : SslState) (hc : ssl ≠ .connecting)
    (hr : v.state = .redirect → ssl = .closing) : Orderly { v with ssl := ssl } where
  timer := h.timer
  dns := h.dns
  live hl := ⟨(h.live hl).1, hc⟩
  single := h.single
  sct := h.sct
  redirect := hr
  keepAlive := h.keepAlive

/-- The other fields do not matter to the order. -/
theorem Orderly.withOthers (h : v.Orderly) (moduleState : NcAttacherModuleState)
    (notified : List NcDeviceEvent) (closeEv closedCb : Bool) (connects : ℕ) (told : Bool) :
    Orderly { v with
      moduleState := moduleState, notified := notified, closeEv := closeEv, closedCb := closedCb
      connects := connects, told := told } :=
  ⟨h.timer, h.dns, h.live, h.single, h.sct, h.redirect, h.keepAlive⟩

theorem Orderly.resolving (h : v.Orderly) (hp : 0 < v.dnsPending) :
    v.state = .dns ∧ v.dnsPending = 1 ∧ v.live = [] := by
  have hd := h.dns
  have hs : v.state = .dns := by
    by_contra hne
    rw [if_neg hne] at hd
    omega
  rw [if_pos hs] at hd
  refine ⟨hs, by omega, ?_⟩
  by_contra hl
  rw [(h.live hl).1] at hs
  cases hs

/-- The name is resolved, the next state is still to be entered. -/
theorem Orderly.resolved (h : v.Orderly) : Orderly { v with dnsPending := v.dnsPending - 1 } :=
  { h with dns := le_trans (Nat.sub_le _ _) h.dns }

theorem Orderly.connect (h : v.Orderly) (hp : 0 < v.dnsPending) :
    Orderly { v with
      dnsPending := v.dnsPending - 1, state := .dtlsAttachRequest, ssl := .connecting } := by
  obtain ⟨hs, hone, hlive⟩ := h.resolving hp
  have ht := h.timer_off (by simp [hs]) (by simp [hs])
  have hka := h.keepAlive_off (by simp [hs])
  exact ⟨by simp [ht], by simp [hone], fun hl => absurd hlive hl, h.single, h.sct, nofun,
    by simp [hka]⟩

theorem live_append (v : AttacherView) (r : CoapClientRequest) :
    live { v with requests := v.requests ++ [r] } =
      v.live ++ if !r.removed && ofAttach v.sctCallback r then [r] else [] := by
  simp only [live, List.filter_append, List.filter_cons, List.filter_nil]

/-- A request that is not a token upload is sent in the attach procedure. -/
theorem Orderly.request (h : v.Orderly) {kind : CoapRequestKind}
    (hk : isSctUpload ⟨kind, false⟩ = false)
    (hlive : v.live = []) (hs : v.state = .dtlsAttachRequest) (hssl : v.ssl ≠ .connecting) :
    Orderly { v with requests := v.requests ++ [⟨kind, false⟩] } where
  timer := h.timer
  dns := h.dns
  live _ := ⟨hs, hssl⟩
  single := by
    rw [live_append, hlive]
    split_ifs <;> simp
  sct := by simpa [List.filter_append, hk] using h.sct
  redirect := h.redirect
  keepAlive := h.keepAlive

theorem no_sct (h : v.Orderly) (hcb : v.sctCallback = none) :
    v.requests.filter isSctUpload = [] := by
  have := h.sct
  rw [hcb] at this
  simpa using this

theorem live_sctCallback (hno : v.requests.filter isSctUpload = [])
    (cb : Option NcAttacherSctCallback) : live { v with sctCallback := cb } = v.live := by
  unfold live
  apply List.filter_congr
  intro r hr
  have hk := List.filter_eq_nil_iff.mp hno r hr
  cases hkind : r.kind <;> simp_all [ofAttach, isSctUpload]

/-- The tokens are uploaded, in the attach procedure or from `ATTACHED`. -/
theorem Orderly.upload (h : v.Orderly) (hcb : v.sctCallback = none) (cb : NcAttacherSctCallback)
    (scts : List String)
    (hatt : cb = .attachSct → v.live = [] ∧ v.state = .dtlsAttachRequest ∧ v.ssl ≠ .connecting) :
    Orderly { v with requests := v.requests ++
      [⟨.sctUpload scts, false⟩], sctCallback := some cb } := by
  have hno := no_sct h hcb
  have hlive : AttacherView.live { v with
      requests := v.requests ++ [⟨.sctUpload scts, false⟩], sctCallback := some cb } =
      v.live ++ if cb = .attachSct then [⟨.sctUpload scts, false⟩] else [] := by
    rw [← live_sctCallback hno (some cb), live_append { v with sctCallback := some cb }]
    cases cb <;> simp [ofAttach]
  refine ⟨h.timer, h.dns, ?_, ?_, ?_, h.redirect, h.keepAlive⟩
  · rw [hlive]
    intro hl
    cases cb with
    | attachSct => exact (hatt rfl).2
    | sct => exact h.live (by simpa using hl)
  · rw [hlive]
    cases cb with
    | attachSct => simp [(hatt rfl).1]
    | sct => simpa using h.single
  · show (List.filter isSctUpload (v.requests ++ [_])).length ≤ 1
    rw [List.filter_append, hno]
    exact List.length_filter_le _ _

/-- The request is taken out of the list and, if it was a token upload, its
callback is cleared. -/
def complete (v : AttacherView) (i : ℕ) (r : CoapClientRequest) : AttacherView :=
  { v with
    requests := v.requests.eraseIdx i
    sctCallback := if isSctUpload r then none else v.sctCallback }

theorem filter_eraseIdx_length {α : Type*} (p : α → Bool) {l : List α} {a : α}
    (h : l[i]? = some a) :
    ((l.eraseIdx i).filter p).length + (if p a then 1 else 0) = (l.filter p).length := by
  obtain ⟨hi, rfl⟩ := List.getElem?_eq_some_iff.mp h
  have hperm := (List.getElem_cons_eraseIdx_perm hi).filter p
  have := hperm.length_eq
  rw [List.filter_cons] at this
  split_ifs at this ⊢ <;> simp_all

theorem complete_live (h : v.Orderly) (hi : v.requests[i]? = some r) :
    (v.complete i r).live.length + (if !r.removed && ofAttach v.sctCallback r then 1 else 0) =
      v.live.length := by
  have hlen := filter_eraseIdx_length (fun r => !r.removed && ofAttach v.sctCallback r) hi
  have hsct := filter_eraseIdx_length isSctUpload hi
  have hlive : (v.complete i r).live =
      (v.requests.eraseIdx i).filter fun r => !r.removed && ofAttach v.sctCallback r := by
    by_cases hk : isSctUpload r = true
    · have hle := h.sct
      have hno : (v.requests.eraseIdx i).filter isSctUpload = [] := by
        rw [if_pos hk] at hsct
        rw [← List.length_eq_zero_iff]
        split_ifs at hle <;> omega
      exact (live_sctCallback (v := { v with requests := v.requests.eraseIdx i }) hno _)
    · simp [live, complete, hk]
  rw [hlive]
  exact hlen

theorem Orderly.complete (h : v.Orderly) (hi : v.requests[i]? = some r) :
    (v.complete i r).Orderly := by
  have hlen := complete_live h hi
  have hsct := filter_eraseIdx_length isSctUpload hi
  refine ⟨h.timer, h.dns, ?_, ?_, ?_, h.redirect, h.keepAlive⟩
  · intro hl
    apply h.live
    intro h0
    rw [h0] at hlen
    apply hl
    rw [← List.length_eq_zero_iff]
    simp only [List.length_nil] at hlen
    omega
  · have := h.single
    omega
  · have := h.sct
    show ((v.requests.eraseIdx i).filter isSctUpload).length ≤ _
    by_cases hk : isSctUpload r = true
    · rw [if_pos hk] at hsct
      simp only [AttacherView.complete, hk, if_true, Option.isSome_none]
      split_ifs at this ⊢ <;> omega
    · rw [if_neg hk] at hsct
      simp only [AttacherView.complete, hk]
      simpa using (show _ ≤ _ by omega : ((v.requests.eraseIdx i).filter isSctUpload).length ≤ _)

/-- A request of the attach procedure that still had its connection was the only one. -/
theorem complete_of_live (h : v.Orderly) (hi : v.requests[i]? = some r) (hr : r.removed = false)
    (ha : ofAttach v.sctCallback r = true) :
    (v.complete i r).live = [] ∧ v.state = .dtlsAttachRequest ∧ v.ssl ≠ .connecting := by
  have hlen := complete_live h hi
  have hone := h.single
  simp only [hr, ha, Bool.not_false, Bool.and_self, if_true] at hlen
  refine ⟨?_, h.live ?_⟩
  · rw [← List.length_eq_zero_iff]
    omega
  · intro h0
    rw [h0] at hlen
    simp at hlen

theorem Orderly.attach (h : v.Orderly) (hlive : v.live = []) (hs : v.state = .dtlsAttachRequest) :
    Orderly { v with state := .attached, keepAlive := true } := by
  have hidle := h.dns_idle (by simp [hs])
  have ht := h.timer_off (by simp [hs]) (by simp [hs])
  exact ⟨by simp [ht], by simp [hidle], fun hl => absurd hlive hl, h.single, h.sct, nofun,
    fun _ => rfl⟩

theorem Orderly.toRedirect (h : v.Orderly) (hlive : v.live = [])
    (hs : v.state = .dtlsAttachRequest) :
    Orderly { v with state := .redirect, ssl := .closing } := by
  have hidle := h.dns_idle (by simp [hs])
  have ht := h.timer_off (by simp [hs]) (by simp [hs])
  have hka := h.keepAlive_off (by simp [hs])
  exact ⟨by simp [ht], by simp [hidle], fun hl => absurd hlive hl, h.single, h.sct, fun _ => rfl,
    by simp [hka]⟩

end AttacherView

open AttacherView

/-! ## The functions of the module -/

variable (d : NpDtlsCli)

@[simp] theorem nmDtlsMbedtlsSend_state : (nmDtlsMbedtlsSend d).state = d.state := by
  unfold nmDtlsMbedtlsSend
  split_ifs <;> rfl

@[simp] theorem mbedtlsCall_state (c : MbedtlsCall) : (mbedtlsCall d c).state = d.state := by
  unfold mbedtlsCall
  split_ifs <;> simp

@[simp] theorem mbedtlsSslCloseNotify_state (b : Bool) :
    (mbedtlsSslCloseNotify d b).state = d.state := by
  unfold mbedtlsSslCloseNotify
  split_ifs <;> simp

@[simp] theorem asyncSendData_state (s : CliSendContext) : (asyncSendData d s).state = d.state := by
  unfold asyncSendData
  split_ifs <;> rfl

variable (ctx : NcAttachContext)

theorem view_dtlsReset : view (dtlsReset ctx) = view ctx := by
  suffices h : ∀ (l : List CliSendContext) (c : NcAttachContext),
      view (l.foldl sendContextCb c) = view c from h ctx.dtls.sendList ctx
  intro l
  induction l with
  | nil => exact fun c => rfl
  | cons s l ih =>
    intro c
    rw [List.foldl_cons, ih (sendContextCb c s)]
    cases s <;> rfl

def giveUp (ctx : NcAttachContext) : NcAttachContext :=
  dtlsReset (nabtoCoapClientRemoveConnection
    { ctx with keepAlive := ncKeepAliveReset ctx.keepAlive })

theorem view_giveUp : view (giveUp ctx) = (view ctx).drop := view_dtlsReset _

variable (env : AttacherEnv)

/-- A close either leaves the attacher as it is or ends like a closed DTLS connection. -/
theorem dtlsCliClose_cases :
    dtlsCliClose ctx env = ctx ∧ ctx.dtls.state = .closing ∨
    ctx.dtls.state ≠ .closing ∧ ∃ d : NpDtlsCli, d.state = .closing ∧
      (dtlsCliClose ctx env = { ctx with dtls := d } ∨
        dtlsCliClose ctx env = dtlsEventClosed { ctx with dtls := d }) := by
  by_cases hc : ctx.dtls.state = .closing
  · left
    simp [dtlsCliClose, hc]
  right
  refine ⟨hc, ?_⟩
  unfold dtlsCliClose
  rw [if_pos hc]
  dsimp only
  split_ifs with hsend
  · refine ⟨{ mbedtlsSslCloseNotify { ctx.dtls with state := .closing } env.closeNotify with
      timer := false }, by simp, Or.inr rfl⟩
  · exact ⟨_, by simp, Or.inl rfl⟩

structure Completed (ctx ctx₁ : NcAttachContext) (i : ℕ) (r : CoapClientRequest) : Prop where
  dtls : ctx₁.dtls = ctx.dtls
  view : view ctx₁ = (NabtoDevice.view ctx).complete i r

/-- The attach procedure goes on after a request of it got its response. -/
inductive Proceeds (env : AttacherEnv) (ctx : NcAttachContext) : NcAttachContext → Prop
  | started : Proceeds env ctx (sendAttachSctRequest ctx env)
  | redirected : Proceeds env ctx (dtlsCliClose
      { ctx with state := .redirect, redirectAttempts := ctx.redirectAttempts + 1 } env)
  | synchronized : Proceeds env ctx (sendAttachEndRequest ctx env)
  | attached : Proceeds env ctx (sendSctRequest
      { ctx with
        keepAlive := ncKeepAliveWait ctx.keepAlive
        state := .attached
        trace := ctx.trace ++ [.attached] } env)

inductive Handled (ctx : NcAttachContext) (i : ℕ) (res : Option CoapClientResponse) :
    CoapRequestKind → NcAttachContext → Prop
  | attachStart (kaInterval kaRetryInterval kaMaxRetries n : UInt32) :
      Handled ctx i res .attachStart
        { ctx with
          requests := ctx.requests.eraseIdx i, startCallback := false
          keepAlive := { ctx.keepAlive with kaInterval, kaRetryInterval, kaMaxRetries, n } }
  | sctUpload (scts : List String) :
      Handled ctx i res (.sctUpload scts)
        { ctx with
          requests := ctx.requests.eraseIdx i
          sctContext :=
            { (if isOkResponse res then
                { ctx.sctContext with synchronizedVersion := ctx.sctContext.uploadingVersion }
              else ctx.sctContext) with callback := none } }
  | attachEnd :
      Handled ctx i res .attachEnd { ctx with
        requests := ctx.requests.eraseIdx i, endCallback := false }

inductive CallsBack (env : AttacherEnv) (ctx ctx₁ : NcAttachContext)
    (res : Option CoapClientResponse) :
    CoapRequestKind → NcAttachContext → Prop
  | fails {kind : CoapRequestKind} (ha : ofAttach ctx.sctContext.callback ⟨kind, false⟩ = true) :
      CallsBack env ctx ctx₁ res kind (dtlsCliClose ctx₁ env)
  | started (hm : ctx.moduleState ≠ .closed) (hok : isOkResponse res = true) :
      CallsBack env ctx ctx₁ res .attachStart (sendAttachSctRequest ctx₁ env)
  | redirected (hm : ctx.moduleState ≠ .closed) (hok : isOkResponse res = true)
      (hcb : ctx.startCallback = true)
      (hp : res.map (·.payload) = some .redirect) :
      CallsBack env ctx ctx₁ res .attachStart (dtlsCliClose
        { ctx₁ with state := .redirect, redirectAttempts := ctx₁.redirectAttempts + 1 } env)
  | synchronized {scts : List String} (hm : ctx.moduleState ≠ .closed)
      (hok : isOkResponse res = true)
      (hcb : ctx.sctContext.callback = some .attachSct) :
      CallsBack env ctx ctx₁ res (.sctUpload scts) (sendAttachEndRequest ctx₁ env)
  | attached (hm : ctx.moduleState ≠ .closed) (hok : isOkResponse res = true) :
      CallsBack env ctx ctx₁ res .attachEnd (sendSctRequest
        { ctx₁ with
          keepAlive := ncKeepAliveWait ctx₁.keepAlive
          state := .attached
          trace := ctx₁.trace ++ [.attached] } env)
  | refused {scts : List String} (hok : isOkResponse res = false)
      (hcb : ctx.sctContext.callback = some .sct) :
      CallsBack env ctx ctx₁ res (.sctUpload scts) ctx₁
  | uploaded {scts : List String} (hok : isOkResponse res = true)
      (hcb : ctx.sctContext.callback = some .sct) :
      CallsBack env ctx ctx₁ res (.sctUpload scts) (sendSctRequest ctx₁ env)

section

theorem attachStartResponse_cases (ctx : NcAttachContext) (res : Option CoapClientResponse) :
    ∃ kaInterval kaRetryInterval kaMaxRetries n status, coapAttachStartHandleResponse ctx res =
        ({ ctx with keepAlive := { ctx.keepAlive with
          kaInterval, kaRetryInterval, kaMaxRetries, n } }, status) ∧
      (status ≠ .error → isOkResponse res = true) ∧
      (status = .redirect → res.map (·.payload) = some .redirect) := by
  cases res with
  | none => exact ⟨_, _, _, _, _, rfl, fun h => absurd rfl h, fun h => by cases h⟩
  | some res =>
    unfold coapAttachStartHandleResponse
    dsimp only
    split_ifs with hfail
    · exact ⟨_, _, _, _, _, rfl, fun h => absurd rfl h, fun h => by cases h⟩
    have hok : isOkResponse (some res) = true := Bool.eq_true_of_not_eq_false hfail
    cases hp : res.payload with
    | invalid => exact ⟨_, _, _, _, _, rfl, fun _ => hok, fun h => by cases h⟩
    | redirect => exact ⟨_, _, _, _, _, rfl, fun _ => hok, fun _ => congrArg some hp⟩
    | attached ka => cases ka <;> exact ⟨_, _, _, _, _, rfl, fun _ => hok, fun h => by cases h⟩

variable {ctx ctx₁ : NcAttachContext} (env : AttacherEnv) (res : Option CoapClientResponse)
  (scts : List String)

theorem callsBack_attachSct (hcb : ctx.sctContext.callback = some .attachSct)
    (hmodule : ctx₁.moduleState = ctx.moduleState) :
    CallsBack env ctx ctx₁ res (.sctUpload scts)
      (sendAttachSctRequestCallback ctx₁ (isOkResponse res) env) := by
  have ha : ofAttach ctx.sctContext.callback ⟨.sctUpload scts, false⟩ = true := by
    simp [ofAttach, hcb]
  unfold sendAttachSctRequestCallback
  rw [hmodule]
  split_ifs with hm hok
  · exact .fails ha
  · exact .synchronized hm hok hcb
  · exact .fails ha

theorem callsBack_sct (hcb : ctx.sctContext.callback = some .sct) :
    CallsBack env ctx ctx₁ res (.sctUpload scts)
      (sendSctRequestCallback ctx₁ (isOkResponse res) env) := by
  unfold sendSctRequestCallback
  split_ifs with hok
  · exact .uploaded hok hcb
  · exact .refused (Bool.eq_false_of_not_eq_true hok) hcb

/-- A completed request is taken out of the list. If it was one of the attach procedure the
procedure fails or, with a response, goes on. -/
theorem coapRequestDone_callsBack {ctx' : NcAttachContext} {res : Option CoapClientResponse}
    {env : AttacherEnv} (h : coapRequestDone ctx i res env = some ctx') :
    ∃ r ctx₁, ctx.requests[i]? = some r ∧ Handled ctx i (responseOf r res) r.kind ctx₁ ∧
      CallsBack env ctx ctx₁ (responseOf r res) r.kind ctx' := by
  unfold coapRequestDone at h
  cases hi : ctx.requests[i]? with
  | none => rw [hi] at h; cases h
  | some r =>
    have hres : (if r.removed then none else res) = responseOf r res := rfl
    simp only [hi, hres] at h
    refine ⟨r, ?_⟩
    generalize responseOf r res = answer at h ⊢
    obtain ⟨kind, removed⟩ := r
    cases kind with
    | attachStart =>
      obtain ⟨hcb, rfl⟩ := Machine.of_guard h
      obtain ⟨kaInterval, kaRetryInterval, kaMaxRetries, n, status, heq, hok, hredirect⟩ :=
        attachStartResponse_cases { ctx with requests := ctx.requests.eraseIdx i } answer
      refine ⟨_, rfl, .attachStart kaInterval kaRetryInterval kaMaxRetries n, ?_⟩
      simp only [coapAttachStartHandler, heq, coapAttachStartCallback]
      split_ifs with hm
      · exact .fails rfl
      cases status with
      | error => exact .fails rfl
      | attached => exact .started hm (hok (by simp))
      | redirect => exact .redirected hm (hok (by simp)) hcb (hredirect rfl)
    | attachEnd =>
      obtain ⟨-, rfl⟩ := Machine.of_guard h
      refine ⟨_, rfl, .attachEnd, ?_⟩
      simp only [coapAttachEndHandler, coapAttachEndCallback]
      split_ifs with hfail hm
      · exact .fails rfl
      · exact .fails rfl
      · exact .attached hm (Bool.eq_true_of_not_eq_false hfail)
    | sctUpload scts =>
      obtain ⟨cb, hcb, rfl⟩ := Option.map_eq_some_iff.mp h
      change ctx.sctContext.callback = some cb at hcb
      refine ⟨_, rfl, .sctUpload scts, ?_⟩
      have hok : ncCoapIsStatusOk ((answer.map (·.code)).getD 0) = isOkResponse answer := by
        cases answer <;> rfl
      simp only [sctRequestHandler, hok]
      cases cb with
      | attachSct => exact callsBack_attachSct env answer scts hcb rfl
      | sct => exact callsBack_sct env answer scts hcb
/-- How the attacher goes on when its `i`-th request, `r`, has completed. -/
def Continues (env : AttacherEnv) (ctx ctx' : NcAttachContext) (i : ℕ) (r : CoapClientRequest) :
    Prop :=
  ∃ ctx₁, Completed ctx ctx₁ i r ∧
    (ofAttach ctx.sctContext.callback r = true ∧ ctx' = coapAttachFailed ctx₁ env ∨
      ofAttach ctx.sctContext.callback r = true ∧ r.removed = false ∧ ctx.moduleState ≠ .closed ∧
        Proceeds env ctx₁ ctx' ∨
      ofAttach ctx.sctContext.callback r = false ∧
        (ctx' = ctx₁ ∨ r.removed = false ∧ ctx' = sendSctRequest ctx₁ env))

theorem Handled.completed {res : Option CoapClientResponse} (h : Handled ctx i res r.kind ctx₁) :
    Completed ctx ctx₁ i r := by
  obtain ⟨kind, removed⟩ := r
  cases h with
  | attachStart | attachEnd => exact ⟨rfl, rfl⟩
  | sctUpload =>
    refine ⟨rfl, ?_⟩
    cases isOkResponse res <;> rfl

theorem not_removed_of_ok {res : Option CoapClientResponse}
    (h : isOkResponse (responseOf r res) = true) : r.removed = false := by
  cases hr : r.removed with
  | false => rfl
  | true => simp [responseOf, hr, isOkResponse] at h

theorem coapRequestDone_cases {ctx' : NcAttachContext} {res : Option CoapClientResponse}
    {env : AttacherEnv} (h : coapRequestDone ctx i res env = some ctx') :
    ∃ r, ctx.requests[i]? = some r ∧ Continues env ctx ctx' i r := by
  obtain ⟨r, ctx₁, hi, hhandled, hcalls⟩ := coapRequestDone_callsBack h
  refine ⟨r, hi, ctx₁, hhandled.completed, ?_⟩
  clear hi hhandled
  obtain ⟨kind, removed⟩ := r
  cases hcalls with
  | fails ha => exact Or.inl ⟨ha, rfl⟩
  | started hm hok => exact Or.inr (Or.inl ⟨rfl, not_removed_of_ok hok, hm, .started⟩)
  | redirected hm hok => exact Or.inr (Or.inl ⟨rfl, not_removed_of_ok hok, hm, .redirected⟩)
  | synchronized hm hok hcb =>
    exact Or.inr (Or.inl ⟨by simp [ofAttach, hcb], not_removed_of_ok hok, hm, .synchronized⟩)
  | attached hm hok => exact Or.inr (Or.inl ⟨rfl, not_removed_of_ok hok, hm, .attached⟩)
  | refused hok hcb => exact Or.inr (Or.inr ⟨by simp [ofAttach, hcb], Or.inl rfl⟩)
  | uploaded hok hcb =>
    exact Or.inr (Or.inr ⟨by simp [ofAttach, hcb], Or.inr ⟨not_removed_of_ok hok, rfl⟩⟩)

end

/-! ## What one event does -/

def doOneEvent (ssl : SslState) (env : AttacherEnv) : Option NpDtlsCliEvent :=
  match ssl with
  | .connecting =>
    match env.handshake with
    | .wantReadWrite => none
    | .accessDenied => some .accessDenied
    | .error => some .closed
    | .done => some .handshakeComplete
  | .data =>
    match env.read with
    | .accessDenied => some .accessDenied
    | .error => some .closed
    | _ => none
  | .closing => none

/-- The event the DTLS client can deliver to the attacher when `e` happens. A
request of the attach procedure that completes may close the DTLS client. -/
def deliveredEvent (ctx : NcAttachContext) : AttacherEvent → Option NpDtlsCliEvent
  | .packet env => doOneEvent ctx.dtls.state env
  | .dtlsTimer env => doOneEvent ctx.dtls.state env
  | .udpSent _ env =>
    if ctx.dtls.state = .closing then some .closed else doOneEvent ctx.dtls.state env
  | .coapDone i _ _ =>
    match ctx.requests[i]? with
    | some r =>
      if ofAttach ctx.sctContext.callback r ∧ ctx.dtls.state ≠ .closing then some .closed else none
    | none => none
  | _ => none

theorem view_dtlsDataHandler (buffer : List UInt8) :
    view (dtlsDataHandler ctx buffer) = view ctx := by
  cases buffer with
  | nil => rfl
  | cons b bs =>
    unfold dtlsDataHandler handleKeepAliveData
    dsimp only
    split_ifs
    · rfl
    · unfold keepAliveSendResponse
      cases hka : ncKeepAliveHandleRequest ctx.keepAlive (b :: bs) with
      | none => rfl
      | some ka =>
        have harmed : ka.armed = ctx.keepAlive.armed := by
          unfold ncKeepAliveHandleRequest at hka
          split_ifs at hka
          rw [← Option.some.inj hka]
        simp [view, harmed]
    · rfl
    · rfl

/-- A keep alive tick either waits for the next one or closes the DTLS client. -/
theorem keepAliveEvent_cases :
    (∃ ka : NcKeepAlive, ∃ d : NpDtlsCli, ka.armed = true ∧ d.state = ctx.dtls.state ∧
      keepAliveEvent ctx env = { ctx with keepAlive := ka, dtls := d }) ∨
    ∃ ka : NcKeepAlive, keepAliveEvent ctx env = dtlsCliClose { ctx with keepAlive := ka } env := by
  unfold keepAliveEvent
  rcases ncKeepAliveShouldSend ctx.keepAlive ctx.dtls.recvCount ctx.dtls.sentCount with ⟨ka, action⟩
  cases action with
  | doNothing => exact Or.inl ⟨ncKeepAliveWait ka, ctx.dtls, rfl, rfl, rfl⟩
  | sendKa =>
    left
    exact ⟨ncKeepAliveWait (ncKeepAliveCreateRequest ka), asyncSendData ctx.dtls .keepAlive, rfl,
      by simp, rfl⟩
  | kaTimeout => exact Or.inr ⟨ka, rfl⟩

theorem view_startSendDeferred (ret : WriteRet) (call : MbedtlsCall) :
    view (nmMbedtlsCliStartSendDeferred ctx ret call) = view ctx := by
  unfold nmMbedtlsCliStartSendDeferred
  by_cases hc : ctx.dtls.state = .closing
  · rw [if_pos hc]
  by_cases hs : ctx.dtls.sending = true
  · rw [if_neg hc, if_pos hs]
  rw [if_neg hc, if_neg hs]
  cases ctx.dtls.sendList with
  | nil => rfl
  | cons next rest =>
    cases next <;> simp [view, sendContextCb, ncKeepAlivePacketSent]

theorem addToken_cases (token : String) (inserted : Bool) (env : AttacherEnv) :
    ∃ sct : NcAttacherSctContext, sct.callback = ctx.sctContext.callback ∧
      (ncAttacherAddServerConnectToken ctx token inserted env = { ctx with sctContext := sct } ∨
        ctx.state = .attached ∧ ncAttacherAddServerConnectToken ctx token inserted env =
          sendSctRequest { ctx with sctContext := sct } env) := by
  unfold ncAttacherAddServerConnectToken
  set sct := { ctx.sctContext with version := (ctx.sctContext.version + 1) % 2 ^ 64 }
  dsimp only
  split_ifs with hins hs
  · exact ⟨sct, rfl, Or.inl rfl⟩
  · exact ⟨{ sct with scts := sct.scts.insert token }, rfl, Or.inr ⟨hs, rfl⟩⟩
  · exact ⟨{ sct with scts := sct.scts.insert token }, rfl, Or.inl rfl⟩

end NabtoDevice
