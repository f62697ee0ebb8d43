import NabtoDevice.Sanity.AttacherUpdates

/-! The redirect counter of the attacher. Apart from a redirect and from `reattach`, what the
attacher does leaves the counter alone and only adds to the events it got from the DTLS client
since the last connect. -/

namespace NabtoDevice

open AttacherView

/-- The counter is kept, no event of the DTLS client is forgotten and no UDP send is lost. The
state `REDIRECT` is not entered, and it is left for a new resolution only while the counter is
below its limit. -/
structure Keeps (ctx ctx' : NcAttachContext) : Prop where
  attempts : ctx'.redirectAttempts = ctx.redirectAttempts
  delivered : ctx.dtlsEvents <+: ctx'.dtlsEvents
  flight : InFlight ctx.dtls → InFlight ctx'.dtls
  entered : ctx'.state = .redirect → ctx.state = .redirect
  resolves : ctx'.dnsPending ≤ ctx.dnsPending ∨
    ctx.state = .redirect ∧ ctx.redirectAttempts < maxRedirectFollow

variable {ctx ctx' : NcAttachContext}

namespace Keeps

theorem of_dtls (hattempts : ctx'.redirectAttempts = ctx.redirectAttempts)
    (hevents : ctx'.dtlsEvents = ctx.dtlsEvents) (hstate : ctx'.state = ctx.state)
    (hdns : ctx'.dnsPending = ctx.dnsPending) (hdtls : InFlight ctx.dtls → InFlight ctx'.dtls) :
    Keeps ctx ctx' :=
  ⟨hattempts, hevents ▸ List.prefix_refl _, hdtls, fun h => hstate ▸ h, Or.inl hdns.le⟩

theorem refl (ctx : NcAttachContext) : Keeps ctx ctx := of_dtls rfl rfl rfl rfl id

theorem trans {ctx₁ ctx₂ ctx₃ : NcAttachContext} (h : Keeps ctx₁ ctx₂) (h' : Keeps ctx₂ ctx₃) :
    Keeps ctx₁ ctx₃ where
  attempts := h'.attempts.trans h.attempts
  delivered := h.delivered.trans h'.delivered
  flight hd := h'.flight (h.flight hd)
  entered hs := h.entered (h'.entered hs)
  resolves := by
    rcases h.resolves with hle | hright
    · rcases h'.resolves with hle' | ⟨hs, hlt⟩
      · exact Or.inl (hle'.trans hle)
      · exact Or.inr ⟨h.entered hs, h.attempts ▸ hlt⟩
    · exact Or.inr hright

end Keeps

theorem keeps_sendContextCb (ctx : NcAttachContext) (s : CliSendContext) :
    Keeps ctx (sendContextCb ctx s) := by
  cases s <;> exact .of_dtls rfl rfl rfl rfl id

theorem keeps_dtlsReset (ctx : NcAttachContext) : Keeps ctx (dtlsReset ctx) := by
  suffices h : ∀ (l : List CliSendContext) (c : NcAttachContext),
      Keeps c (l.foldl sendContextCb c) from
    (h ctx.dtls.sendList ctx).trans (.of_dtls rfl rfl rfl rfl id)
  intro l
  induction l with
  | nil => exact Keeps.refl
  | cons s l ih => exact fun c => (keeps_sendContextCb c s).trans (ih (sendContextCb c s))

theorem AttacherUpdate.keeps (h : AttacherUpdate ctx ctx') : Keeps ctx ctx' := by
  cases h with
  | aside h =>
    simp only [essence, Prod.mk.injEq] at h
    obtain ⟨hattempts, hevents, hstate, hdns, hdtls, -⟩ := h
    exact .of_dtls hattempts hevents hstate hdns fun hd => hdtls ▸ hd
  | dtls h => exact .of_dtls rfl rfl rfl rfl h.flight
  | told event => exact ⟨rfl, List.prefix_append _ _, id, id, Or.inl le_rfl⟩
  | enter hs =>
    rcases hs with rfl | rfl | rfl | rfl <;>
      exact ⟨rfl, List.prefix_refl _, id, fun hdns => (by cases hdns), Or.inl le_rfl⟩
  | follow hs hlt =>
    exact ⟨rfl, List.prefix_refl _, id, fun hdns => (by cases hdns), Or.inr ⟨hs, hlt⟩⟩
  | reset => exact keeps_dtlsReset ctx
  | @write next rest d hlist h =>
    have hwritten : Keeps ctx { ctx with dtls := d } := .of_dtls rfl rfl rfl rfl h.flight
    exact hwritten.trans (keeps_sendContextCb _ _)

theorem Evolves.keeps (h : Evolves ctx ctx') : Keeps ctx ctx' := by
  induction h with
  | refl => exact Keeps.refl ctx
  | tail _ hu ih => exact ih.trans hu.keeps

theorem Requeues.keeps (h : Requeues ctx ctx') : Keeps ctx ctx' := by
  obtain ⟨hsends, -, -, -⟩ := h
  exact .of_dtls rfl rfl rfl rfl fun hd => (hsends.flight hd).asyncSendData .keepAlive

theorem keeps_doOne (ctx : NcAttachContext) (env : AttacherEnv) :
    Keeps ctx (nmDtlsEventDoOne ctx env) := by
  rcases doOne_evolves_or_requeues ctx env with h | h <;> exact h.keeps

variable {e : AttacherEvent}

theorem keeps_step (hm : ctx.moduleState ≠ .setup) (hstep : attacherStep ctx e = some ctx')
    (hr : redirects ctx e = false) (he : e ≠ .reattach) (hdns : ∀ ok env, e ≠ .dnsResolved ok env) :
    Keeps ctx ctx' := by
  by_cases hcoap : e = .coapSend
  · subst hcoap
    cases attacherCase_of_step hstep with
    | coapBusy => exact .refl ctx
    | coapSend => exact .of_dtls rfl rfl rfl rfl fun hd => hd.asyncSendData .coap
  rcases updates_step hcoap (fun _ => hm) hstep hr he hdns with ⟨-, h | h⟩ | ⟨-, h⟩
  · exact h.keeps
  · exact h.keeps
  · obtain ⟨ka, rfl⟩ := h.same
    exact .of_dtls rfl rfl rfl rfl id

/-- The counter changes with a redirect only, until `reattach` starts it again. -/
theorem redirectAttempts_step (hm : ctx.moduleState ≠ .setup)
    (hstep : attacherStep ctx e = some ctx')
    (hr : redirects ctx e = false) (he : e ≠ .reattach) :
    ctx'.redirectAttempts = ctx.redirectAttempts := by
  by_cases hdns : ∃ ok env, e = .dnsResolved ok env
  · obtain ⟨ok, env, rfl⟩ := hdns
    obtain ⟨-, rfl⟩ := Machine.of_guard hstep
    rw [dnsResolvedCallback]
    split_ifs
    · rfl
    · rfl
    · exact (keeps_doOne _ env).attempts
  · have hother : ∀ ok env, e ≠ .dnsResolved ok env := fun ok env heq => hdns ⟨ok, env, heq⟩
    exact (keeps_step hm hstep hr he hother).attempts

/-- `REDIRECT` is entered with a redirect only. -/
theorem redirect_entered (hm : ctx.moduleState ≠ .setup) (hstep : attacherStep ctx e = some ctx')
    (hr : redirects ctx e = false) (he : e ≠ .reattach) (hs : ctx'.state = .redirect) :
    ctx.state = .redirect := by
  by_cases hdns : ∃ ok env, e = .dnsResolved ok env
  · obtain ⟨ok, env, rfl⟩ := hdns
    obtain ⟨-, rfl⟩ := Machine.of_guard hstep
    rw [dnsResolvedCallback] at hs
    split_ifs at hs
    · cases hs
    · cases hs
    · have hentered := (keeps_doOne _ env).entered hs
      cases hentered
  · have hother : ∀ ok env, e ≠ .dnsResolved ok env := fun ok env heq => hdns ⟨ok, env, heq⟩
    exact (keeps_step hm hstep hr he hother).entered hs

theorem inFlight_step (hm : ctx.moduleState ≠ .setup) (hstep : attacherStep ctx e = some ctx')
    (h : InFlight ctx.dtls) : InFlight ctx'.dtls := by
  by_cases hr : redirects ctx e = true
  · obtain ⟨i, res, env, -, rfl⟩ := step_redirects hstep hr
    exact (evolves_dtlsCliClose .refl env).keeps.flight h
  rw [Bool.not_eq_true] at hr
  by_cases he : e = .reattach
  · subst he
    obtain ⟨-, rfl⟩ := Machine.of_guard hstep
    rw [reattach]
    split_ifs <;> exact h
  by_cases hdns : ∃ ok env, e = .dnsResolved ok env
  · obtain ⟨ok, env, rfl⟩ := hdns
    obtain ⟨-, rfl⟩ := Machine.of_guard hstep
    rw [dnsResolvedCallback]
    split_ifs
    · exact h
    · exact h
    · -- the connect has forgotten that the client was sending
      exact (keeps_doOne _ env).flight fun hsending => Bool.noConfusion hsending
  · have hother : ∀ ok env, e ≠ .dnsResolved ok env := fun ok env heq => hdns ⟨ok, env, heq⟩
    exact (keeps_step hm hstep hr he hother).flight h

/-! ## A second terminal event -/

theorem told_iff :
    (view ctx).told = true ↔ 0 < ctx.dtlsEvents.countP NpDtlsCliEvent.isTerminal := by
  rw [List.countP_pos_iff]
  exact List.any_eq_true

theorem told_twice {event : NpDtlsCliEvent} (h : Keeps (recordDtlsEvent ctx event) ctx')
    (htold : (view ctx).told = true) (hterm : event.isTerminal = true) :
    2 ≤ ctx'.dtlsEvents.countP NpDtlsCliEvent.isTerminal := by
  have hone := told_iff.mp htold
  have hle := h.delivered.sublist.countP_le (p := NpDtlsCliEvent.isTerminal)
  simp only [recordDtlsEvent, List.countP_append, List.countP_singleton, hterm, if_true] at hle
  omega

variable {env : AttacherEnv}

/-- What `nm_dtls_event_do_one` delivers is one of the events the attacher got. -/
theorem doOne_delivers {event : NpDtlsCliEvent} (h : doOneEvent ctx.dtls.state env = some event) :
    ∃ d : NpDtlsCli, Keeps (recordDtlsEvent { ctx with dtls := d } event)
      (nmDtlsEventDoOne ctx env) := by
  unfold nmDtlsEventDoOne
  unfold doOneEvent at h
  cases hssl : ctx.dtls.state with
  | closing =>
    rw [hssl] at h
    cases h
  | connecting =>
    rw [hssl] at h
    dsimp only at h ⊢
    cases hret : env.handshake with
    | wantReadWrite =>
      rw [hret] at h
      cases h
    | accessDenied | error | done =>
      rw [hret] at h
      cases h
      exact ⟨_, (evolves_dtlsEventHandler _ _ env).keeps⟩
  | data =>
    rw [hssl] at h
    dsimp only at h ⊢
    cases hret : env.read with
    | eof | data | wantReadWrite =>
      rw [hret] at h
      cases h
    | accessDenied =>
      rw [hret] at h
      cases h
      exact ⟨_, (evolves_dtlsEventHandler _ _ env).keeps⟩
    | error =>
      rw [hret] at h
      cases h
      exact ⟨_, (evolves_dtlsEventClosed _).keeps⟩

theorem connecting_of_handshakeComplete {ssl : SslState}
    (h : doOneEvent ssl env = some .handshakeComplete) : ssl = .connecting := by
  unfold doOneEvent at h
  cases ssl with
  | connecting => rfl
  | data => cases hread : env.read <;> simp [hread] at h
  | closing => cases h

theorem doOne_quiet (ctx : NcAttachContext) (htold : (view ctx).told = true)
    (hshaken : ctx.dtls.state ≠ .connecting)
    (hone : (nmDtlsEventDoOne ctx env).dtlsEvents.countP NpDtlsCliEvent.isTerminal ≤ 1) :
    doOneEvent ctx.dtls.state env = none := by
  cases hev : doOneEvent ctx.dtls.state env with
  | none => rfl
  | some event =>
    have hterm : event.isTerminal = true := by
      cases event with
      | closed | accessDenied => rfl
      | handshakeComplete => exact absurd (connecting_of_handshakeComplete hev) hshaken
    obtain ⟨d, hkeeps⟩ := doOne_delivers hev
    have htwo := told_twice hkeeps htold hterm
    omega

/-- A connection that has delivered its terminal event delivers nothing more if it delivers no
second one. A failed request can still close the DTLS client. -/
theorem quiet_of_told (hstep : attacherStep ctx e = some ctx') (htold : (view ctx).told = true)
    (hrem : (view ctx).AllRemoved) (hshaken : ctx.dtls.state ≠ .connecting)
    (hone : ctx'.dtlsEvents.countP NpDtlsCliEvent.isTerminal ≤ 1) :
    deliveredEvent ctx e = none ∨
      ∃ i r, ctx.requests[i]? = some r ∧
        view ctx' = { (view ctx).complete i r with ssl := .closing } := by
  cases e with
  | packet env =>
    obtain ⟨-, rfl⟩ := Machine.of_guard_not hstep
    exact Or.inl (doOne_quiet ctx htold hshaken hone)
  | dtlsTimer env =>
    obtain ⟨-, rfl⟩ := Machine.of_guard hstep
    rw [nmDtlsTimedEventDoOne] at hone
    left
    split_ifs at hone with hclosing
    · have hstate : ctx.dtls.state = .closing := hclosing
      rw [deliveredEvent, hstate]
      rfl
    · exact doOne_quiet { ctx with dtls := { ctx.dtls with timer := false } } htold hshaken hone
  | udpSent coalesced env =>
    obtain ⟨-, rfl⟩ := Machine.of_guard hstep
    rw [nmDtlsUdpSendCallback] at hone
    dsimp only at hone
    left
    split_ifs at hone with hclosing
    · have htwo := told_twice (evolves_dtlsEventClosed
        { ctx with dtls := { ctx.dtls with
            udpSends := ctx.dtls.udpSends - (coalesced + 1)
            sending := false, sslSendBuffer := false, timer := false } }).keeps htold rfl
      exact absurd (htwo.trans hone) (by omega)
    · have hstate : ctx.dtls.state ≠ .closing := hclosing
      rw [deliveredEvent, if_neg hstate]
      exact doOne_quiet { ctx with dtls := { ctx.dtls with
        udpSends := ctx.dtls.udpSends - (coalesced + 1), sending := false,
          sslSendBuffer := false } }
        htold hshaken hone
  | coapDone i res env =>
    obtain ⟨r, hi, ctx₁, hc, hcase⟩ := coapRequestDone_cases hstep
    have hremoved := hrem r (List.mem_of_getElem? hi)
    rcases hcase with ⟨ha, rfl⟩ | ⟨-, hr, -⟩ | ⟨ha, -⟩
    · rcases dtlsCliClose_cases ctx₁ env with ⟨-, hclosing⟩ | ⟨-, d, hd, heq | heq⟩
      · left
        rw [hc.dtls] at hclosing
        simp [deliveredEvent, hi, hclosing]
      · right
        refine ⟨i, r, hi, ?_⟩
        rw [coapAttachFailed, heq, ← hc.view]
        simp [view, hd]
      · have htold' : (view ctx₁).told = true := by rw [hc.view]; exact htold
        rw [coapAttachFailed, heq] at hone
        have htwo := told_twice (evolves_dtlsEventClosed { ctx₁ with dtls := d }).keeps htold' rfl
        omega
    · cases hr.symm.trans hremoved
    · left
      simp [deliveredEvent, hi, ha]
  | _ => exact Or.inl rfl

end NabtoDevice
