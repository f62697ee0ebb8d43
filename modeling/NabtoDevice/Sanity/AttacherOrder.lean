import NabtoDevice.Sanity.AttacherMoves

/-! While the module runs, a move keeps the order of its activities if the DTLS client delivers
an event only in a state that waits for it. -/

namespace NabtoDevice

open AttacherView

def isAwaited (state : NcAttacherAttachState) : NpDtlsCliEvent → Bool
  | .handshakeComplete => state = .dtlsAttachRequest
  | .closed | .accessDenied => state ≠ .dns

def Awaits (ctx : NcAttachContext) (e : AttacherEvent) : Prop :=
  ∀ event ∈ deliveredEvent ctx e, isAwaited ctx.state event = true

variable {v v' : AttacherView}

namespace AttacherView

theorem Orderly.lose (h : v.Orderly) : v.lose.Orderly := by
  have hdrop := h.drop
  exact hdrop.withOthers v.moduleState v.notified v.closeEv v.closedCb v.connects true

theorem Orderly.tellsClosed (h : v.Orderly) (hm : v.moduleState ≠ .closed) (hdns : v.state ≠ .dns)
    (ht : TellsClosed v v') : v'.Orderly ∧ (v.state ≠ .redirect → v'.state ≠ .dns) := by
  have hlose := h.lose
  have hlive : v.lose.live = [] := live_of_allRemoved v.drop_allRemoved
  have hidle : v.lose.dnsPending = 0 := h.dns_idle hdns
  have hwait := hlose.wait (Or.inl rfl) hlive hidle rfl
  cases ht with
  | shut hc => exact absurd hc hm
  | denied => exact ⟨hlose, fun _ => hdns⟩
  | wait => exact ⟨hwait, fun _ => by simp⟩
  | detach => exact ⟨hwait.withOthers _ _ _ _ _ _, fun _ => by simp⟩
  | follow _ hs =>
    have hres := hlose.resolve hlive hdns rfl
    have htimer : v.lose.timer = false := h.timer_off (by simp [hs]) (by simp [hs])
    rw [← htimer] at hres
    exact ⟨hres, fun hne => absurd hs hne⟩

theorem Orderly.closes (h : v.Orderly) (hm : v.moduleState ≠ .closed)
    (hdns : v.ssl ≠ .closing → v.state ≠ .dns) (hc : Closes v v') : v'.Orderly := by
  have hclosing := h.withSsl .closing (by simp) fun _ => rfl
  cases hc with
  | already => exact h
  | sending => exact hclosing
  | tells hopen ht => exact (hclosing.tellsClosed hm (hdns hopen) ht).1

theorem Orderly.uploads (h : v.Orderly) (hu : Uploads v v') : v'.Orderly := by
  cases hu with
  | nothing => exact h
  | upload hcb scts => exact h.upload hcb .sct scts nofun

/-- The attach procedure goes on where it has its only request answered. -/
theorem Orderly.goesOn (h : v.Orderly) (hm : v.moduleState ≠ .closed) (hlive : v.live = [])
    (hs : v.state = .dtlsAttachRequest) (hssl : v.ssl ≠ .connecting) (hg : GoesOn v v') :
    v'.Orderly := by
  cases hg with
  | fail hc => exact h.closes hm (fun _ => by simp [hs]) hc
  | upload hcb scts => exact h.upload hcb .attachSct scts fun _ => ⟨hlive, hs, hssl⟩
  | request => exact h.request rfl hlive hs hssl
  | redirect hc =>
    have hred := h.toRedirect hlive hs
    cases hc with
    | already hclosing =>
      rw [← show v.ssl = .closing from hclosing] at hred
      exact hred
    | sending => exact hred
    | tells _ ht => exact (hred.tellsClosed hm (by simp) ht).1
  | attach hu =>
    have hattached := (h.attach hlive hs).withOthers v.moduleState (v.notified ++ [.attached])
      v.closeEv v.closedCb v.connects v.told
    exact hattached.uploads hu

theorem Orderly.inReset (h : v.Orderly) (hm : v.moduleState ≠ .closed) (hdns : v.state ≠ .dns)
    (hred : v.state ≠ .redirect) (hr : InReset v v') : v'.Orderly ∧ v'.state ≠ .dns := by
  cases hr with
  | nothing => exact ⟨h, hdns⟩
  | completes hi => exact ⟨h.complete hi, hdns⟩
  | fails hi hc =>
    refine ⟨(h.complete hi).closes hm (fun _ => hdns) hc, ?_⟩
    cases hc with
    | already | sending => exact hdns
    | tells _ ht =>
      have hclosing := (h.complete hi).withSsl .closing (by simp) fun _ => rfl
      exact (hclosing.tellsClosed hm hdns ht).2 hred

theorem Orderly.reads {ev : Option NpDtlsCliEvent} (h : v.Orderly) (hm : v.moduleState ≠ .closed)
    (hawaited : ∀ event ∈ ev, isAwaited v.state event = true) (hr : Reads v ev v') :
    v'.Orderly := by
  have hclosing := h.withSsl .closing (by simp) fun _ => rfl
  have hred (hopen : v.ssl ≠ .closing) : v.state ≠ .redirect := fun hs => hopen (h.redirect hs)
  cases hr with
  | nothing => exact h
  | eof => exact hclosing
  | closed _ ht =>
    have hdns : v.state ≠ .dns := by simpa [isAwaited] using hawaited _ rfl
    exact (hclosing.tellsClosed hm hdns ht).1
  | shut _ hc => exact absurd hc hm
  | denied hopen _ hssl hreset =>
    have hdns : v.state ≠ .dns := by simpa [isAwaited] using hawaited _ rfl
    have hlose := (h.withSsl _ hssl fun hs => absurd hs (hred hopen)).lose
    obtain ⟨hrem, hka, -, -⟩ := hreset.allRemoved hm (drop_allRemoved _) rfl hssl
    obtain ⟨hw, hwdns⟩ := hlose.inReset hm hdns (hred hopen) hreset
    exact hw.wait (Or.inr rfl) (live_of_allRemoved hrem) (hw.dns_idle hwdns) hka
  | refuse hssl hc =>
    have hs : v.state = .dtlsAttachRequest := by simpa [isAwaited] using hawaited _ rfl
    have hdata := h.withSsl .data (by simp) fun hr => absurd hr (hred (by simp [hssl]))
    exact hdata.closes hm (fun _ => by simp [hs]) hc
  | request hssl _ =>
    have hs : v.state = .dtlsAttachRequest := by simpa [isAwaited] using hawaited _ rfl
    have hlive : v.live = [] := by
      by_contra hl
      exact (h.live hl).2 hssl
    have hdata := h.withSsl .data (by simp) fun hr => absurd hr (hred (by simp [hssl]))
    exact hdata.request rfl hlive hs (by simp)

/-- The reattach timer starts a resolution from a waiting state. -/
theorem Orderly.reattach (h : v.Orderly) (ht : v.timer = true) :
    Orderly { v with timer := false, state := .dns, dnsPending := v.dnsPending + 1 } := by
  have hw := h.timer ht
  have hlive : v.live = [] := by
    by_contra hl
    rw [(h.live hl).1] at hw
    simp at hw
  have hdns : v.state ≠ .dns := by rcases hw with hw | hw <;> simp [hw]
  have hatt : v.state ≠ .attached := by rcases hw with hw | hw <;> simp [hw]
  exact h.resolve hlive hdns (h.keepAlive_off hatt)

end AttacherView

variable {ctx : NcAttachContext} {env : AttacherEnv}

/-- A request of the attach procedure that completes closes a connection only where the
attacher waits for that. -/
theorem not_dns_of_coapDone {i : ℕ} {res : Option CoapClientResponse} {r : CoapClientRequest}
    (h : Awaits ctx (.coapDone i res env)) (hi : ctx.requests[i]? = some r)
    (ha : ofAttach ctx.sctContext.callback r = true) (hopen : ctx.dtls.state ≠ .closing) :
    ctx.state ≠ .dns := by
  have hclosed : deliveredEvent ctx (.coapDone i res env) = some .closed := by
    simp [deliveredEvent, hi, ha, hopen]
  have hawaited := h .closed hclosed
  simpa [isAwaited] using hawaited

theorem not_dns_of_udpSent {coalesced : ℕ} (h : Awaits ctx (.udpSent coalesced env))
    (hc : ctx.dtls.state = .closing) : ctx.state ≠ .dns := by
  have hclosed : deliveredEvent ctx (.udpSent coalesced env) = some .closed := if_pos hc
  have hawaited := h .closed hclosed
  simpa [isAwaited] using hawaited

theorem awaited_of_udpSent {coalesced : ℕ} (h : Awaits ctx (.udpSent coalesced env))
    (hopen : ctx.dtls.state ≠ .closing) :
    ∀ event ∈ doOneEvent ctx.dtls.state env, isAwaited ctx.state event = true := by
  have hdelivered : deliveredEvent ctx (.udpSent coalesced env) = doOneEvent ctx.dtls.state env :=
    if_neg hopen
  rw [← hdelivered]
  exact h

/-- The module keeps running in order, or is shut down. -/
theorem orderly_moves {e : AttacherEvent} (hm : ctx.moduleState = .running) (h : (view ctx).Orderly)
    (hawaits : Awaits ctx e) (hmove : Moves (view ctx) e v') :
    v'.moduleState = .running ∧ v'.Orderly ∨
      ∃ cb armed, (armed = true → ctx.keepAlive.armed = true) ∧
        ShutsDown { view ctx with closedCb := cb, keepAlive := armed } v' := by
  have hopen : (view ctx).moduleState ≠ .closed := by simp [view, hm]
  cases hmove with
  | rest | tick => exact Or.inl ⟨hm, h⟩
  | start hs => cases hm.symm.trans hs
  | asyncClose hd => exact Or.inr ⟨true, ctx.keepAlive.armed, id, hd⟩
  | stop hd => exact Or.inr ⟨ctx.closedCb, false, by simp, hd⟩
  | addToken _ hu => exact Or.inl ⟨hu.sameModule.1.trans hm, h.uploads hu⟩
  | resolvedLate _ hc => exact absurd hc hopen
  | resolveFailed hp _ =>
    obtain ⟨hs, hone, hlive⟩ := h.resolving hp
    have hzero : (view ctx).dnsPending - 1 = 0 := by omega
    have hka := h.keepAlive_off (by simp [hs])
    exact Or.inl ⟨hm, h.resolved.wait (Or.inl rfl) hlive hzero hka⟩
  | connect hp _ hr =>
    have hconnected := (h.connect hp).withOthers ctx.moduleState ctx.trace ctx.closeEv ctx.closedCb
      (ctx.dtlsConnects + 1) false
    refine Or.inl ⟨hr.sameModule.1.trans hm, hconnected.reads hopen (fun event _ => ?_) hr⟩
    cases event <;> rfl
  | packet _ hr => exact Or.inl ⟨hr.sameModule.1.trans hm, h.reads hopen hawaits hr⟩
  | dtlsTimer hr => exact Or.inl ⟨hr.sameModule.1.trans hm, h.reads hopen hawaits hr⟩
  | udpSent hssl hr =>
    exact Or.inl ⟨hr.sameModule.1.trans hm, h.reads hopen (awaited_of_udpSent hawaits hssl) hr⟩
  | udpSentLast hssl ht =>
    have hdns := not_dns_of_udpSent hawaits hssl
    exact Or.inl ⟨ht.sameModule.1.trans hm, (h.tellsClosed hopen hdns ht).1⟩
  | fails hi ha hc =>
    have hdns := not_dns_of_coapDone hawaits hi ha
    exact Or.inl ⟨hc.sameModule.1.trans hm, (h.complete hi).closes hopen hdns hc⟩
  | goesOn hi ha hr _ hg =>
    obtain ⟨hlive, hs, hssl⟩ := complete_of_live h hi hr ha
    exact Or.inl ⟨hg.sameModule.1.trans hm, (h.complete hi).goesOn hopen hlive hs hssl hg⟩
  | synchronizes hi _ _ hu => exact Or.inl ⟨hu.sameModule.1.trans hm, (h.complete hi).uploads hu⟩
  | @timeout _ _ hk armed hc =>
    have hs : (view ctx).state = .attached := h.keepAlive hk
    have harmed : Orderly { view ctx with keepAlive := armed } :=
      { h with keepAlive := fun _ => hs }
    exact Or.inl ⟨hc.sameModule.1.trans hm, harmed.closes hopen (fun _ => by simp [hs]) hc⟩
  | reattach ht _ => exact Or.inl ⟨hm, h.reattach ht⟩
  | reattachLate _ hc => exact absurd hc hopen
  | closeEv =>
    have hoff : Orderly { view ctx with timer := false } := { h with timer := by simp }
    exact Or.inl ⟨hm, hoff.withOthers _ _ _ _ _ _⟩

end NabtoDevice
