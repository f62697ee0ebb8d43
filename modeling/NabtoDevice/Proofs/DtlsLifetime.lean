import NabtoDevice.Sanity.DtlsLifetime
import Mathlib.Tactic.ByContra

/-! A DTLS client context is freed once and not touched afterwards, as long as its owner destroys
it where the flags `sending` and `receiving` tell what is still to come. `Stage` goes through the
life of a context that is destroyed like this; in the other direction the functions that are
running are followed down to the one that touches the freed context. -/

namespace NabtoDevice

namespace DtlsClient

/-- The flags keep the context as long as it is needed: `sending` counts the outstanding UDP sends,
no function that frees a destroyed context on its own is running, and if the context is freed at
once, no function is running that goes on with it. -/
def DestroysSafely (ctx : DtlsClient) : Prop :=
  (∀ f ∈ ctx.frames, f ≠ .closeNotify ∧ f ≠ .udpSendCallback) ∧ ctx.udpSends = ctx.sending.toNat ∧
    (ctx.sending = true ∨ ctx.receiving = true ∨ ∀ f ∈ ctx.frames, f = .done)

instance (ctx : DtlsClient) : Decidable ctx.DestroysSafely :=
  inferInstanceAs (Decidable (_ ∧ _ ∧ _))

structure Waiting (ctx : DtlsClient) : Prop where
  closing : ctx.state = .closing
  destroyed : ctx.destroyed = true
  freed : ctx.freed = false
  frames : Grounded ctx.receiving ctx.frames
  kept : ctx.sending = true ∨ ctx.receiving = true

structure Freeable (ctx : DtlsClient) : Prop where
  destroyed : ctx.destroyed = true
  freed : ctx.freed = false
  done : ∀ f ∈ ctx.frames, f = .done
  udpSends : ctx.udpSends = 0

inductive Stage (ctx : DtlsClient) : Prop
  | alive (h : ctx.Alive) (hwired : ctx.Wired)
  | waiting (h : ctx.Waiting) (hsafe : ∀ f ∈ ctx.frames, f ≠ .closeNotify ∧ f ≠ .udpSendCallback)
      (hudp : ctx.udpSends = ctx.sending.toNat)
  /-- The last UDP send has completed and the owner is told that the context is closed. -/
  | told (hdestroyed : ctx.destroyed = true) (hfreed : ctx.freed = false)
      (hframes : ctx.frames = [.udpSendCallback]) (hudp : ctx.udpSends = 0)
  /-- The callbacks of the queued sends are called. -/
  | freeing {frames : List CliFrame} (hdestroyed : ctx.destroyed = true)
      (hfreed : ctx.freed = false)
      (hframes : ctx.frames = .doFree :: frames) (hdone : ∀ f ∈ frames, f = .done)
      (hudp : ctx.udpSends = 0)
  | freed (hfreed : ctx.freed = true) (hdone : ∀ f ∈ ctx.frames, f = .done)
      (hudp : ctx.udpSends = 0)

variable {ctx ctx' : DtlsClient}

theorem Freeable.doFree (h : ctx.Freeable) : ctx.doFree.Stage := by
  unfold DtlsClient.doFree
  cases ctx.sendList.waiting with
  | nil => exact .freed rfl h.done h.udpSends
  | cons first others => exact .freeing h.destroyed h.freed rfl h.done h.udpSends

theorem Waiting.resetLoop (h : ctx.Waiting) : ctx.resetLoop.Waiting := by
  unfold DtlsClient.resetLoop
  cases ctx.sendList.waiting with
  | nil => exact ⟨h.closing, h.destroyed, h.freed, h.frames, h.kept⟩
  | cons first others => exact ⟨h.closing, h.destroyed, h.freed, .push (by simp) h.frames, h.kept⟩

theorem resetLoop_frames (ctx : DtlsClient) :
    ctx.resetLoop.frames = ctx.frames ∨ ctx.resetLoop.frames = .reset :: ctx.frames := by
  unfold resetLoop
  cases ctx.sendList.waiting with
  | nil => exact Or.inl rfl
  | cons first others => exact Or.inr rfl

theorem resetLoop_length (ctx : DtlsClient) :
    ctx.resetLoop.frames.length + ctx.resetLoop.sendList.waiting.length ≤
      ctx.frames.length + ctx.sendList.waiting.length := by
  unfold resetLoop
  cases hlist : ctx.sendList.waiting with
  | nil => simp [hlist]
  | cons first others =>
    simp only [sendCb, TicketQueue.serve, List.length_cons]
    omega

theorem Waiting.sending_of_idle (h : ctx.Waiting) (hframes : ctx.frames = []) :
    ctx.sending = true := by
  have hgrounded := h.frames
  rw [hframes] at hgrounded
  exact h.kept.resolve_right (by simp [hgrounded.not_receiving])

structure Unwinds (ctx ctx' : DtlsClient) (frames : List CliFrame) : Prop where
  waiting : ctx'.Waiting
  sending : ctx'.sending = ctx.sending
  udpSends : ctx'.udpSends = ctx.udpSends
  frames : ctx'.frames = frames ∨ ctx'.frames = ctx.frames
  less : ctx'.frames.length + ctx'.sendList.waiting.length <
    ctx.frames.length + ctx.sendList.waiting.length

theorem Unwinds.subset {rest : CliFrame} {frames : List CliFrame} (h : Unwinds ctx ctx' frames)
    (hframes : ctx.frames = rest :: frames) : frames ⊆ ctx'.frames ∧ ctx'.frames ⊆ ctx.frames := by
  rcases h.frames with heq | heq <;> rw [heq, hframes]
  · exact ⟨List.Subset.refl _, List.subset_cons_self _ _⟩
  · exact ⟨List.subset_cons_self _ _, List.Subset.refl _⟩

theorem Waiting.unwinds {rest : CliFrame} {frames : List CliFrame} (h : ctx.Waiting)
    (hframes : ctx.frames = rest :: frames)
    (hrest : rest = .done ∨ rest = .startSend ∨ rest = .reset) :
    Unwinds ctx (DtlsClient.resume { ctx with frames := frames } rest) frames := by
  have hgrounded := h.frames
  rw [hframes] at hgrounded
  have hpacket : rest ≠ .handlePacket := by rcases hrest with rfl | rfl | rfl <;> simp
  have hpopped : Waiting { ctx with frames := frames } :=
    ⟨h.closing, h.destroyed, h.freed, (hgrounded.pop hpacket).2, h.kept⟩
  have hless : frames.length + ctx.sendList.waiting.length <
      ctx.frames.length + ctx.sendList.waiting.length := by
    rw [hframes, List.length_cons]
    omega
  rcases hrest with rfl | rfl | rfl
  · exact ⟨hpopped, rfl, rfl, Or.inl rfl, hless⟩
  · exact ⟨⟨h.closing, h.destroyed, h.freed, hpopped.frames, h.kept⟩, rfl, rfl, Or.inl rfl, hless⟩
  · have hsame := sameLink_resetLoop { ctx with frames := frames }
    have hloop := resetLoop_frames { ctx with frames := frames }
    exact ⟨hpopped.resetLoop, hsame.sending, hsame.udpSends, hloop.imp_right (·.trans hframes.symm),
      (resetLoop_length _).trans_lt hless⟩

theorem Waiting.resume {rest : CliFrame} {frames : List CliFrame} (h : ctx.Waiting)
    (hframes : ctx.frames = rest :: frames)
    (hsafe : ∀ f ∈ ctx.frames, f ≠ .closeNotify ∧ f ≠ .udpSendCallback)
    (hudp : ctx.udpSends = ctx.sending.toNat) :
    (DtlsClient.resume { ctx with frames := frames } rest).Stage := by
  have hgrounded := h.frames
  rw [hframes] at hgrounded
  have hrest := hsafe rest (hframes ▸ List.mem_cons_self)
  cases rest with
  | handlePacket =>
    obtain ⟨-, rfl⟩ := hgrounded.packet_last
    by_cases hsending : ctx.sending = true
    · rw [resume_handlePacket { ctx with frames := [] } (Or.inr hsending)]
      exact .waiting ⟨h.closing, h.destroyed, h.freed, .idle, Or.inl hsending⟩
        (fun _ hf => by cases hf) hudp
    · rw [Bool.not_eq_true] at hsending
      have hzero : ctx.udpSends = 0 := by simpa [hsending] using hudp
      have hfree : Freeable { ctx with frames := [], receiving := false } :=
        ⟨h.destroyed, h.freed, (fun _ hf => by cases hf), hzero⟩
      rw [resume_handlePacket_frees { ctx with frames := [] } h.destroyed hsending]
      exact hfree.doFree
  | doFree => exact absurd rfl (hgrounded.pop (by simp)).1
  | closeNotify => exact absurd rfl hrest.1
  | udpSendCallback => exact absurd rfl hrest.2
  | done | startSend | reset =>
    have hunwinds := h.unwinds hframes (by simp)
    refine .waiting hunwinds.waiting (fun f hf => hsafe f ((hunwinds.subset hframes).2 hf)) ?_
    rw [hunwinds.udpSends, hunwinds.sending]
    exact hudp

theorem Waiting.step {e : DtlsClientEvent} (h : ctx.Waiting)
    (hsafe : ∀ f ∈ ctx.frames, f ≠ .closeNotify ∧ f ≠ .udpSendCallback)
    (hudp : ctx.udpSends = ctx.sending.toNat) (hs : dtlsClientStep ctx e = some ctx') :
    ctx'.Stage := by
  cases dtlsClientCase_of_step hs with
  | packet env hframes =>
    have hsending := h.sending_of_idle hframes
    rw [eventDoOne_closing { ctx with receiving := true } h.closing,
      resume_handlePacket { ctx with receiving := true } (Or.inr hsending)]
    refine .waiting ⟨h.closing, h.destroyed, h.freed, ?_, Or.inl hsending⟩ hsafe hudp
    rw [hframes]
    exact .idle
  | udpSentLast coalesced env hframes =>
    have hsending := h.sending_of_idle hframes
    have hone : ctx.udpSends = 1 := by simpa [hsending] using hudp
    refine .told h.destroyed h.freed (congrArg (CliFrame.udpSendCallback :: ·) hframes) ?_
    exact Nat.sub_eq_zero_of_le (by omega)
  | startSend ret use =>
    rw [startSendDeferred, if_pos h.closing]
    exact .waiting ⟨h.closing, h.destroyed, h.freed, h.frames, h.kept⟩ hsafe hudp
  | timerClosing | sendRefused =>
    exact .waiting ⟨h.closing, h.destroyed, h.freed, h.frames, h.kept⟩ hsafe hudp
  | timer _ _ hopen | udpSent _ _ _ _ hopen | send _ hopen => exact absurd h.closing hopen
  | connect _ hlive | reset hlive | close _ hlive | destroy hlive =>
    exact absurd (h.destroyed.symm.trans hlive) (by simp)
  | ret hframes => exact h.resume hframes hsafe hudp

/-- While a callback runs and the context is destroyed, the owner can only try to send. -/
theorem step_in_callback {e : DtlsClientEvent} {rest : CliFrame} {frames : List CliFrame}
    (hdestroyed : ctx.destroyed = true) (hframes : ctx.frames = rest :: frames)
    (hs : dtlsClientStep ctx e = some ctx') :
    (∃ sendList event, ctx' = { ctx with sendList := sendList, startSendEvent := event }) ∨
      e = .ret ∧ ctx' = resume { ctx with frames := frames } rest := by
  cases dtlsClientCase_of_step hs with
  | packet _ hnone | timerClosing _ hnone | timer _ hnone | udpSentLast _ _ hnone | udpSent _ _ hnone
  | startSend _ _ hnone => cases hframes.symm.trans hnone
  | connect _ hlive | reset hlive | close _ hlive | destroy hlive =>
    exact absurd (hdestroyed.symm.trans hlive) (by simp)
  | sendRefused | send => exact Or.inl ⟨_, _, rfl⟩
  | ret hsame =>
    obtain ⟨rfl, rfl⟩ := List.cons.inj (hframes.symm.trans hsame)
    exact Or.inr ⟨rfl, rfl⟩

theorem Stage.step {e : DtlsClientEvent} (h : ctx.Stage) (he : e ≠ .destroy)
    (hs : dtlsClientStep ctx e = some ctx') : ctx'.Stage := by
  cases h with
  | alive h hwired => exact .alive (h.step he hs) (wired_step hwired hs)
  | waiting h hsafe hudp => exact h.step hsafe hudp hs
  | told hdestroyed hfreed hframes hudp =>
    rcases step_in_callback hdestroyed hframes hs with ⟨sendList, event, rfl⟩ | ⟨-, rfl⟩
    · exact .told hdestroyed hfreed hframes hudp
    · have hfree : Freeable { ctx with frames := [] } :=
        ⟨hdestroyed, hfreed, (fun _ hf => by cases hf), hudp⟩
      rw [resume_udpSendCallback_frees { ctx with frames := [] } hdestroyed]
      exact hfree.doFree
  | @freeing frames hdestroyed hfreed hframes hdone hudp =>
    rcases step_in_callback hdestroyed hframes hs with ⟨sendList, event, rfl⟩ | ⟨-, rfl⟩
    · exact .freeing hdestroyed hfreed hframes hdone hudp
    · have hfree : Freeable { ctx with frames := frames } := ⟨hdestroyed, hfreed, hdone, hudp⟩
      exact hfree.doFree
  | freed hfreed =>
    obtain ⟨hnot, -⟩ := Option.ite_none_left_eq_some.mp hs
    exact absurd hfreed hnot

theorem Alive.destroy (h : ctx.Alive) (hsafe : ctx.DestroysSafely) : ctx.destroy.Stage := by
  obtain ⟨hframes, hudp, hnow⟩ := hsafe
  unfold DtlsClient.destroy
  dsimp only
  split_ifs with hidle
  · rw [Bool.and_eq_true, Bool.not_eq_true', Bool.not_eq_true'] at hidle
    have hdone : ∀ f ∈ ctx.frames, f = .done := by simpa [hidle.1, hidle.2] using hnow
    have hzero : ctx.udpSends = 0 := by simpa [hidle.1] using hudp
    have hfree : Freeable { ctx with state := .closing, destroyed := true } :=
      ⟨rfl, h.freed, hdone, hzero⟩
    exact hfree.doFree
  · have hkept : ctx.sending = true ∨ ctx.receiving = true := by
      rw [Bool.and_eq_true, not_and_or] at hidle
      simpa using hidle
    exact .waiting ⟨rfl, rfl, h.freed, h.frames, hkept⟩ hframes hudp

end DtlsClient

namespace DtlsLifetime

open DtlsClient

structure Good (t : DtlsLifetime) : Prop where
  untouched : t.fault = false
  completed : t.client.freed = true → t.client.udpSends = 0
  freed : t.client.destroyed = true → t.client.frames = [] → t.client.udpSends = 0 →
    t.client.freed = true

structure Sound (t : DtlsLifetime) : Prop where
  untouched : t.fault = false
  stage : t.client.Stage

variable {t t' : DtlsLifetime} {e : DtlsClientEvent}

theorem Sound.good (h : t.Sound) : t.Good := by
  refine ⟨h.untouched, fun hfreed => ?_, fun hdestroyed hframes hudp => ?_⟩
  · cases h.stage with
    | alive h => simp [h.freed] at hfreed
    | waiting h => simp [h.freed] at hfreed
    | told _ hnot | freeing _ hnot => simp [hnot] at hfreed
    | freed _ _ hudp => exact hudp
  · cases h.stage with
    | alive h => simp [h.destroyed] at hdestroyed
    | waiting h _ htrue =>
      rw [hudp, h.sending_of_idle hframes] at htrue
      cases htrue
    | told _ _ hone => cases hframes.symm.trans hone
    | freeing _ _ hone => cases hframes.symm.trans hone
    | freed hfreed => exact hfreed

theorem Sound.dangling (h : t.Sound) (hfreed : t.client.freed = true)
    (hs : t.dangling e = some t') : t'.Sound := by
  have hgood := h.good.completed hfreed
  have hdone : ∀ f ∈ t.client.frames, f = .done := by
    cases h.stage with
    | alive h => simp [h.freed] at hfreed
    | waiting h => simp [h.freed] at hfreed
    | told _ hnot | freeing _ hnot => simp [hnot] at hfreed
    | freed _ hdone _ => exact hdone
  cases e with
  | ret =>
    cases hframes : t.client.frames with
    | nil => simp [DtlsLifetime.dangling, hframes] at hs
    | cons rest frames =>
      rw [hframes] at hdone
      simp only [DtlsLifetime.dangling, hframes, Option.some.injEq] at hs
      subst hs
      refine ⟨?_, .freed hfreed (fun f hf => hdone f (List.mem_cons_of_mem _ hf)) hgood⟩
      simp [h.untouched, hdone rest List.mem_cons_self]
  | udpSent coalesced env =>
    obtain ⟨⟨-, hlt⟩, -⟩ := Option.ite_none_right_eq_some.mp hs
    omega
  | _ => cases hs

theorem Sound.step (h : t.Sound) (hsafe : e = .destroy → t.client.DestroysSafely)
    (hs : dtlsLifetimeStep t e = some t') : t'.Sound := by
  unfold dtlsLifetimeStep at hs
  by_cases hfreed : t.client.freed = true
  · rw [if_pos hfreed] at hs
    exact h.dangling hfreed hs
  rw [if_neg hfreed] at hs
  by_cases he : e = .destroy
  · rw [if_pos he] at hs
    obtain ⟨hdestroyed, hs⟩ := Option.ite_none_left_eq_some.mp hs
    subst he
    rw [← Option.some.inj hs]
    cases h.stage with
    | alive halive => exact ⟨h.untouched, halive.destroy (hsafe rfl)⟩
    | waiting hw => exact absurd hw.destroyed hdestroyed
    | told hd | freeing hd => exact absurd hd hdestroyed
    | freed hf => exact absurd hf hfreed
  rw [if_neg he] at hs
  have hclient {client : DtlsClient} {e : DtlsClientEvent} (he : e ≠ .destroy)
      (hc : dtlsClientStep t.client e = some client) : Sound { t with client := client } :=
    ⟨h.untouched, h.stage.step he hc⟩
  by_cases hreturn : e = .ret ∧ t.client.frames.head? = some .closeNotify
  · rw [if_pos hreturn, returnToSend] at hs
    split_ifs at hs with hdestroyed
    · -- a context that is destroyed safely has no such frame
      obtain ⟨frames, hframes⟩ := List.head?_eq_some_iff.mp hreturn.2
      cases h.stage with
      | alive halive => simp [halive.destroyed] at hdestroyed
      | waiting _ hkept => exact absurd rfl (hkept .closeNotify (hframes ▸ List.mem_cons_self)).1
      | told _ _ hother => cases hframes.symm.trans hother
      | freeing _ _ hother => cases hframes.symm.trans hother
      | freed hf => exact absurd hf hfreed
    · obtain ⟨client, hc, rfl⟩ := Option.map_eq_some_iff.mp hs
      exact hclient (by simp) hc
  · rw [if_neg hreturn] at hs
    obtain ⟨client, hc, rfl⟩ := Option.map_eq_some_iff.mp hs
    exact hclient he hc

/-! ## The other direction -/

def isReturn : DtlsClientEvent → Bool
  | .ret | .udpSent _ _ => true
  | _ => false

/-- Whatever returns and completes from here on, the property holds. -/
def Fine (t : DtlsLifetime) : Prop :=
  ∀ (more : List DtlsClientEvent) (u : DtlsLifetime), more.all isReturn = true →
    more.foldlM dtlsLifetimeStep t = some u → u.Good

theorem Fine.good (h : t.Fine) : t.Good := h [] t rfl rfl

theorem Fine.step (h : t.Fine) (he : isReturn e = true) (hs : dtlsLifetimeStep t e = some t') :
    t'.Fine := by
  intro more u hmore hexec
  refine h (e :: more) u (by simp [he, hmore]) ?_
  rw [List.foldlM_cons, hs]
  exact hexec

theorem step_ret {rest : CliFrame} {frames : List CliFrame} (hfreed : t.client.freed = false)
    (hframes : t.client.frames = rest :: frames) (hrest : rest ≠ .closeNotify) :
    dtlsLifetimeStep t .ret =
      some { t with client := resume { t.client with frames := frames } rest } := by
  simp [dtlsLifetimeStep, dtlsClientStep, hfreed, hframes, hrest]

theorem step_closeNotify {frames : List CliFrame} (hfreed : t.client.freed = false)
    (hdestroyed : t.client.destroyed = true) (hframes : t.client.frames = .closeNotify :: frames) :
    dtlsLifetimeStep t .ret = some { t with client := t.client.doFree } := by
  simp [dtlsLifetimeStep, returnToSend, hfreed, hdestroyed, hframes]

/-- The functions return one after the other into the freed context. -/
theorem Fine.freed (h : t.Fine) (hfreed : t.client.freed = true) :
    (∀ f ∈ t.client.frames, f = .done) ∧ t.client.udpSends = 0 := by
  refine ⟨?_, h.good.completed hfreed⟩
  generalize hframes : t.client.frames = frames
  induction frames generalizing t with
  | nil => exact fun f hf => by cases hf
  | cons rest frames ih =>
    have hret : dtlsLifetimeStep t .ret =
        some ⟨{ t.client with frames := frames }, t.fault || rest ≠ .done⟩ := by
      simp [dtlsLifetimeStep, dangling, hfreed, hframes]
    have hnext := h.step rfl hret
    have huntouched := hnext.good.untouched
    simp only [Bool.or_eq_false_iff, decide_eq_false_iff_not, not_not] at huntouched
    intro f hf
    rcases List.mem_cons.mp hf with rfl | hf
    · exact huntouched.2
    · exact ih hnext hfreed rfl f hf

/-- The callbacks of the queued sends return. -/
theorem Fine.freeing {frames : List CliFrame} (h : t.Fine) (hfreed : t.client.freed = false)
    (hframes : t.client.frames = .doFree :: frames) :
    (∀ f ∈ frames, f = .done) ∧ t.client.udpSends = 0 := by
  generalize hlist : t.client.sendList.waiting = waiting
  induction waiting generalizing t with
  | nil =>
    have hret := step_ret hfreed hframes (by simp)
    have hnext := h.step rfl hret
    simp only [resume, doFree, hlist] at hnext
    exact hnext.freed rfl
  | cons first others ih =>
    have hret := step_ret hfreed hframes (by simp)
    have hnext := h.step rfl hret
    simp only [resume, doFree, hlist] at hnext
    obtain ⟨hdone, hudp⟩ := ih hnext hfreed rfl rfl
    exact ⟨hdone, hudp⟩

theorem Fine.doFree {client : DtlsClient} {fault : Bool} (h : Fine ⟨client.doFree, fault⟩)
    (hfreed : client.freed = false) : (∀ f ∈ client.frames, f = .done) ∧ client.udpSends = 0 := by
  unfold DtlsClient.doFree at h
  cases hlist : client.sendList.waiting with
  | nil =>
    rw [hlist] at h
    exact h.freed rfl
  | cons first others =>
    rw [hlist] at h
    exact h.freeing hfreed rfl

/-- With no function running, the completion of one UDP send frees the context. -/
theorem Fine.last_send (h : t.Fine) (hw : t.client.Waiting) (hframes : t.client.frames = [])
    (hpos : 0 < t.client.udpSends) : t.client.udpSends = 1 := by
  let client : DtlsClient :=
    { t.client with
      udpSends := t.client.udpSends - 1, sending := false, sslSendBuffer := false, timer := false
      events := t.client.events ++ [.closed] }
  have hsent : dtlsLifetimeStep t (.udpSent 0 {}) =
      some { t with client := { client with frames := .udpSendCallback :: client.frames } } := by
    simp [client, dtlsLifetimeStep, dtlsClientStep, udpSendCallback, DtlsClient.doClose,
      eventHandler, hw.freed, hframes, hpos, hw.closing]
  have hret : Fine { t with client := client.resume .udpSendCallback } :=
    (h.step rfl hsent).step rfl (step_ret hw.freed rfl (by simp))
  rw [resume_udpSendCallback_frees client hw.destroyed] at hret
  have hzero : t.client.udpSends - 1 = 0 := (hret.doFree hw.freed).2
  omega

/-- The send function frees the context and returns into it. -/
theorem Fine.not_closeNotify {frames : List CliFrame} (h : t.Fine) (hw : t.client.Waiting) :
    t.client.frames ≠ .closeNotify :: frames := by
  intro hframes
  have hfrees := h.step rfl (step_closeNotify hw.freed hw.destroyed hframes)
  have hdone := (hfrees.doFree hw.freed).1 .closeNotify (hframes ▸ List.mem_cons_self)
  cases hdone

/-- The UDP send callback frees the context, which something else still needs. -/
theorem Fine.not_udpSendCallback {frames : List CliFrame} (h : t.Fine) (hw : t.client.Waiting)
    (hpos : t.client.sending = true → 0 < t.client.udpSends) :
    t.client.frames ≠ .udpSendCallback :: frames := by
  intro hframes
  have hret := h.step rfl (step_ret hw.freed hframes (by simp))
  rw [resume_udpSendCallback_frees { t.client with frames := frames } hw.destroyed] at hret
  obtain ⟨hdone, hzero⟩ := hret.doFree hw.freed
  rcases hw.kept with hsending | hreceiving
  · exact absurd hzero (hpos hsending).ne'
  · have hgrounded := hw.frames
    rw [hframes] at hgrounded
    have hlast := hdone .handlePacket ((hgrounded.pop (by simp)).2.packet_mem hreceiving)
    cases hlast

/-- `handle_packet` frees the context, or leaves that to the UDP send callback. -/
theorem Fine.handlePacket (h : t.Fine) (hw : t.client.Waiting)
    (hpos : t.client.sending = true → 0 < t.client.udpSends)
    (hframes : t.client.frames = [.handlePacket]) : t.client.udpSends = t.client.sending.toNat := by
  have hret := h.step rfl (step_ret hw.freed hframes (by simp))
  by_cases hsending : t.client.sending = true
  · rw [resume_handlePacket { t.client with frames := [] } (Or.inr hsending)] at hret
    rw [hsending]
    exact hret.last_send ⟨hw.closing, hw.destroyed, hw.freed, .idle, Or.inl hsending⟩ rfl
      (hpos hsending)
  · rw [Bool.not_eq_true] at hsending
    rw [resume_handlePacket_frees { t.client with frames := [] } hw.destroyed hsending] at hret
    rw [hsending]
    exact (hret.doFree hw.freed).2

/-- The functions that are running return one after the other, until the context is freed. -/
theorem Fine.waiting (h : t.Fine) (hw : t.client.Waiting)
    (hpos : t.client.sending = true → 0 < t.client.udpSends) :
    (∀ f ∈ t.client.frames, f ≠ .closeNotify ∧ f ≠ .udpSendCallback) ∧
      t.client.udpSends = t.client.sending.toNat := by
  -- a return takes a function off, and the loop of a reset a send off the queue
  generalize hn : t.client.frames.length + t.client.sendList.waiting.length = n
  induction n using Nat.strong_induction_on generalizing t with
  | _ n ih =>
    cases hframes : t.client.frames with
    | nil =>
      have hsending := hw.sending_of_idle hframes
      rw [hsending]
      exact ⟨(fun f hf => by cases hf), h.last_send hw hframes (hpos hsending)⟩
    | cons rest frames =>
      have hgrounded := hw.frames
      rw [hframes] at hgrounded
      cases rest with
      | closeNotify => exact absurd hframes (h.not_closeNotify hw)
      | udpSendCallback => exact absurd hframes (h.not_udpSendCallback hw hpos)
      | doFree => exact absurd rfl (hgrounded.pop (by simp)).1
      | handlePacket =>
        obtain ⟨-, rfl⟩ := hgrounded.packet_last
        exact ⟨by simp, h.handlePacket hw hpos hframes⟩
      | done | startSend | reset =>
        have hunwinds := hw.unwinds hframes (by simp)
        have hret := h.step rfl (step_ret hw.freed hframes (by simp))
        obtain ⟨hsafe, hudp⟩ := ih _ (hn ▸ hunwinds.less) hret hunwinds.waiting
          (by rw [hunwinds.sending, hunwinds.udpSends]; exact hpos) rfl
        refine ⟨List.forall_mem_cons.mpr ⟨by simp, fun f hf => hsafe f ?_⟩, ?_⟩
        · exact (hunwinds.subset hframes).1 hf
        · exact hunwinds.udpSends.symm.trans (hudp.trans (congrArg Bool.toNat hunwinds.sending))

theorem Fine.destroysSafely {client : DtlsClient} {fault : Bool} (h : Fine ⟨client.destroy, fault⟩)
    (halive : client.Alive) (hwired : client.Wired) : client.DestroysSafely := by
  unfold DtlsClient.destroy at h
  dsimp only at h
  split_ifs at h with hidle
  · rw [Bool.and_eq_true, Bool.not_eq_true', Bool.not_eq_true'] at hidle
    obtain ⟨hdone, hzero⟩ := h.doFree halive.freed
    have hudp : client.udpSends = client.sending.toNat := by
      rw [hidle.1]
      exact hzero
    exact ⟨(fun f hf => by simp [hdone f hf]), hudp, Or.inr (Or.inr hdone)⟩
  · have hkept : client.sending = true ∨ client.receiving = true := by
      rw [Bool.and_eq_true, not_and_or] at hidle
      simpa using hidle
    obtain ⟨hsafe, hudp⟩ := h.waiting ⟨rfl, rfl, halive.freed, halive.frames, hkept⟩ hwired.sending
    exact ⟨hsafe, hudp, hkept.imp_right Or.inl⟩

theorem Sound.destroy_cases (h : t.Sound) (hs : dtlsLifetimeStep t .destroy = some t') :
    t.client.Alive ∧ t.client.Wired ∧ t' = { t with client := t.client.destroy } := by
  unfold dtlsLifetimeStep at hs
  by_cases hfreed : t.client.freed = true
  · rw [if_pos hfreed] at hs
    cases hs
  rw [if_neg hfreed, if_pos rfl] at hs
  obtain ⟨hdestroyed, hs⟩ := Option.ite_none_left_eq_some.mp hs
  cases h.stage with
  | alive halive hwired => exact ⟨halive, hwired, (Option.some.inj hs).symm⟩
  | waiting hw => exact absurd hw.destroyed hdestroyed
  | told hd | freeing hd => exact absurd hd hdestroyed
  | freed hf => exact absurd hf hfreed

theorem sound_create : create.Sound :=
  ⟨rfl, .alive ⟨rfl, rfl, .idle⟩ ⟨fun h => Bool.noConfusion h, fun h => Bool.noConfusion h⟩⟩

end DtlsLifetime

/-- Whatever callbacks return and whatever UDP sends complete afterwards, the context is freed,
not before its UDP sends have completed, and it is not touched after that, if and only if the
owner destroys it where the flags keep it as long as it is needed. -/
theorem destroy_safe_iff {evs : List DtlsClientEvent} {s : DtlsLifetime}
    (h : dtlsLifetime.Run evs s) :
    (∀ pre more t, pre <+: evs → more.all DtlsLifetime.isReturn = true →
        dtlsLifetime.Run (pre ++ more) t → t.Good) ↔
      ∀ t e, dtlsLifetime.Takes evs t e → e = .destroy → t.client.DestroysSafely := by
  refine h.safe_iff_takes DtlsLifetime.isReturn DtlsLifetime.Sound DtlsLifetime.Good
    (fun t e => e = .destroy → t.client.DestroysSafely) DtlsLifetime.sound_create
    (fun t ht => ht.good) ?_ ?_ ?_
  · rintro t e he rfl
    cases he
  · intro t e t' ht hsafe hs
    exact ht.step hsafe hs
  · intro t e t' ht hunsafe hs
    obtain ⟨rfl, hbad⟩ := Classical.not_imp.mp hunsafe
    obtain ⟨halive, hwired, rfl⟩ := ht.destroy_cases hs
    by_contra hno
    have hfine : DtlsLifetime.Fine { t with client := t.client.destroy } := by
      intro more u hmore hexec
      by_contra hgood
      exact hno ⟨more, u, hmore, hexec, hgood⟩
    exact hbad (hfine.destroysSafely halive hwired)

def destroyInHandlerRun : List DtlsClientEvent :=
  [.connect { use := { record := .taken } }, .udpSent 0 {}, .packet { handshake := .done },
    .destroy, .ret]

theorem destroy_safe_in_handler :
    ∃ s, dtlsLifetime.Run destroyInHandlerRun s ∧ s.client.freed = true ∧ s.Good := by
  have hr : dtlsLifetime.Run destroyInHandlerRun _ := Machine.run_of_exec rfl
  have hall : dtlsLifetime.allTaken (fun t e => decide (e = .destroy → t.client.DestroysSafely))
      dtlsLifetime.init destroyInHandlerRun = true := by
    decide +kernel
  have hgood := (destroy_safe_iff hr).mpr fun t e ht => by
    have hsafe := Machine.takes_of_allTaken hall ht
    exact of_decide_eq_true hsafe
  exact ⟨_, hr, by decide +kernel, hgood destroyInHandlerRun [] _ (List.prefix_refl _) rfl hr⟩

def destroyWhenToldRun : List DtlsClientEvent :=
  [.connect { use := { record := .taken } }, .close .none, .udpSent 0 {}, .destroy, .ret]

/-- The handshake fails before the first record is sent, and the owner connects again and
destroys the context. -/
def destroyReconnectedRun : List DtlsClientEvent :=
  [.connect { use := { record := .taken } }, .packet { handshake := .error }, .reset, .ret,
    .connect {}, .destroy]

/-- The UDP send callback goes on with the freed context, and a UDP send is outstanding when the
context is freed. -/
theorem destroy_frees_too_early :
    (∃ s, dtlsLifetime.Run destroyWhenToldRun s ∧ s.client.freed = true ∧ s.fault = true) ∧
      ∃ s, dtlsLifetime.Run destroyReconnectedRun s ∧ s.client.freed = true ∧
        s.client.udpSends = 1 :=
  ⟨⟨_, Machine.run_of_exec rfl, by decide +kernel⟩, ⟨_, Machine.run_of_exec rfl, by decide +kernel⟩⟩

end NabtoDevice
