import NabtoDevice.Spec.DtlsLifetime
import NabtoDevice.Sanity.DtlsClient

/-! The functions of the DTLS client module that wait for a callback to return. The event queue
starts one only when no other is running, so `handle_packet` is never called by another. -/

namespace NabtoDevice

/-- The functions that are running while `receiving` has this value, in a context that is not
being freed. -/
inductive Grounded : Bool → List CliFrame → Prop
  | idle : Grounded false []
  | packet : Grounded true [.handlePacket]
  | push {receiving : Bool} {frames : List CliFrame} {rest : CliFrame}
      (hrest : rest ≠ .handlePacket ∧ rest ≠ .doFree) (h : Grounded receiving frames) :
      Grounded receiving (rest :: frames)

variable {receiving : Bool} {rest : CliFrame} {frames : List CliFrame}

namespace Grounded

theorem pop (h : Grounded receiving (rest :: frames)) (hrest : rest ≠ .handlePacket) :
    rest ≠ .doFree ∧ Grounded receiving frames := by
  cases h with
  | packet => exact absurd rfl hrest
  | push hother h => exact ⟨hother.2, h⟩

theorem packet_last (h : Grounded receiving (.handlePacket :: frames)) :
    receiving = true ∧ frames = [] := by
  cases h with
  | packet => exact ⟨rfl, rfl⟩
  | push hother h => exact absurd rfl hother.1

theorem not_receiving (h : Grounded receiving []) : receiving = false := by
  cases h
  rfl

theorem packet_mem (h : Grounded receiving frames) (hreceiving : receiving = true) :
    .handlePacket ∈ frames := by
  induction h with
  | idle => cases hreceiving
  | packet => exact List.mem_singleton.mpr rfl
  | push hother h ih => exact List.mem_cons_of_mem _ (ih hreceiving)

end Grounded

variable (ctx : DtlsClient)

namespace DtlsClient

structure SameFrames (ctx ctx' : DtlsClient) : Prop where
  destroyed : ctx'.destroyed = ctx.destroyed
  freed : ctx'.freed = ctx.freed
  receiving : ctx'.receiving = ctx.receiving
  frames : ctx'.frames = ctx.frames

theorem sameFrames_mbedtlsSend (record : RecordSend) : SameFrames ctx (ctx.mbedtlsSend record) := by
  rw [mbedtlsSend_only]
  exact ⟨rfl, rfl, rfl, rfl⟩

theorem sameFrames_mbedtls (use : MbedtlsUse) : SameFrames ctx (ctx.mbedtls use) := by
  obtain ⟨hdestroyed, hfreed, hreceiving, hframes⟩ := sameFrames_mbedtlsSend ctx use.record
  exact ⟨hdestroyed, hfreed, hreceiving, hframes⟩

/-- `nm_dtls_event_do_one` returns to its caller or calls back. -/
theorem eventDoOne_frames (env : CliEnv) (rest : CliFrame) :
    (∃ c, SameFrames ctx c ∧ ctx.eventDoOne env rest = c.resume rest) ∨
      SameFrames { ctx with frames := rest :: ctx.frames } (ctx.eventDoOne env rest) := by
  obtain ⟨hdestroyed, hfreed, hreceiving, hframes⟩ := sameFrames_mbedtls ctx env.use
  have hpushed := congrArg (rest :: ·) hframes
  unfold eventDoOne
  cases ctx.state with
  | closing => exact Or.inl ⟨ctx, ⟨rfl, rfl, rfl, rfl⟩, rfl⟩
  | connecting =>
    cases env.handshake with
    | wantReadWrite => exact Or.inl ⟨_, ⟨hdestroyed, hfreed, hreceiving, hframes⟩, rfl⟩
    | accessDenied | error | done => exact Or.inr ⟨hdestroyed, hfreed, hreceiving, hpushed⟩
  | data =>
    cases env.read with
    | wantReadWrite => exact Or.inl ⟨_, ⟨hdestroyed, hfreed, hreceiving, hframes⟩, rfl⟩
    | eof =>
      refine Or.inl ⟨{ ctx.mbedtls env.use with state := .closing }, ?_, rfl⟩
      exact ⟨hdestroyed, hfreed, hreceiving, hframes⟩
    | data | accessDenied | error => exact Or.inr ⟨hdestroyed, hfreed, hreceiving, hpushed⟩

theorem eventDoOne_closing (h : ctx.state = .closing) (env : CliEnv) (rest : CliFrame) :
    ctx.eventDoOne env rest = ctx.resume rest := by
  unfold eventDoOne
  rw [h]

theorem resume_handlePacket (h : ctx.destroyed = false ∨ ctx.sending = true) :
    ctx.resume .handlePacket = { ctx with receiving := false } := by
  unfold resume
  dsimp only
  rcases h with h | h <;> rw [h]
  · rfl
  · rw [Bool.not_true, Bool.and_false]
    rfl

theorem resume_udpSendCallback (h : ctx.destroyed = false) : ctx.resume .udpSendCallback = ctx := by
  unfold resume
  dsimp only
  rw [if_neg (by simp [h])]

theorem resume_handlePacket_frees (hd : ctx.destroyed = true) (hsending : ctx.sending = false) :
    ctx.resume .handlePacket = doFree { ctx with receiving := false } := by
  unfold resume
  dsimp only
  rw [if_pos (by simp [hd, hsending])]

theorem resume_udpSendCallback_frees (hd : ctx.destroyed = true) :
    ctx.resume .udpSendCallback = ctx.doFree := if_pos hd

structure Alive (ctx : DtlsClient) : Prop where
  destroyed : ctx.destroyed = false
  freed : ctx.freed = false
  frames : Grounded ctx.receiving ctx.frames

namespace Alive

variable {ctx ctx' : DtlsClient}

theorem of_same (h : ctx.Alive) (hs : SameFrames ctx ctx') : ctx'.Alive := by
  refine ⟨hs.destroyed.trans h.destroyed, hs.freed.trans h.freed, ?_⟩
  rw [hs.receiving, hs.frames]
  exact h.frames

theorem push (h : ctx.Alive) (hrest : rest ≠ .handlePacket ∧ rest ≠ .doFree) :
    Alive { ctx with frames := rest :: ctx.frames } :=
  ⟨h.destroyed, h.freed, .push hrest h.frames⟩

theorem eventDoOne (h : ctx.Alive) (env : CliEnv) : (ctx.eventDoOne env .done).Alive := by
  rcases eventDoOne_frames ctx env .done with ⟨c, hsame, heq⟩ | hsame
  · rw [heq]
    exact h.of_same hsame
  · exact (h.push (by simp)).of_same hsame

theorem handlePacket (h : ctx.Alive) (hframes : ctx.frames = []) (env : CliEnv) :
    (ctx.handlePacket env).Alive := by
  unfold DtlsClient.handlePacket
  rcases eventDoOne_frames { ctx with receiving := true } env .handlePacket with
    ⟨c, hsame, heq⟩ | hsame
  · have hdestroyed : c.destroyed = false := hsame.destroyed.trans h.destroyed
    have hnone : c.frames = [] := hsame.frames.trans hframes
    rw [heq, resume_handlePacket c (Or.inl hdestroyed)]
    exact ⟨hdestroyed, hsame.freed.trans h.freed, hnone ▸ .idle⟩
  · refine ⟨hsame.destroyed.trans h.destroyed, hsame.freed.trans h.freed, ?_⟩
    rw [hsame.receiving, hsame.frames, hframes]
    exact .packet

theorem resetLoop (h : ctx.Alive) : ctx.resetLoop.Alive := by
  unfold DtlsClient.resetLoop
  cases ctx.sendList.waiting with
  | nil => exact ⟨h.destroyed, h.freed, h.frames⟩
  | cons first others => exact ⟨h.destroyed, h.freed, .push (by simp) h.frames⟩

theorem close (h : ctx.Alive) (record : RecordSend) : (ctx.close record).Alive := by
  have hsent := h.of_same (sameFrames_mbedtlsSend ctx record)
  unfold DtlsClient.close
  by_cases hstate : ctx.state = .closing
  · rw [if_pos hstate]
    exact h
  rw [if_neg hstate]
  dsimp only
  rw [mbedtlsSend_closing]
  split_ifs
  · exact ⟨h.destroyed, h.freed, .push (by simp) h.frames⟩
  · exact ⟨hsent.destroyed, hsent.freed, hsent.frames⟩
  · exact ⟨hsent.destroyed, hsent.freed, .push (by simp) hsent.frames⟩

theorem startSend (h : ctx.Alive) (ret : WriteRet) (use : MbedtlsUse) :
    (ctx.startSendDeferred ret use).Alive := by
  rcases startSendDeferred_cases ctx ret use with ⟨heq, -⟩ | ⟨next, others, sentCount, -, -, heq⟩
  · rw [heq]
    exact h
  · have hused := h.of_same (sameFrames_mbedtls ctx use)
    rw [heq]
    exact ⟨hused.destroyed, hused.freed, .push (by simp) hused.frames⟩

/-- A function goes on after its callback. -/
theorem resume (h : ctx.Alive) (hframes : ctx.frames = rest :: frames) :
    (DtlsClient.resume { ctx with frames := frames } rest).Alive := by
  have hgrounded := h.frames
  rw [hframes] at hgrounded
  by_cases hpacket : rest = .handlePacket
  · subst hpacket
    obtain ⟨-, rfl⟩ := hgrounded.packet_last
    rw [resume_handlePacket { ctx with frames := [] } (Or.inl h.destroyed)]
    exact ⟨h.destroyed, h.freed, .idle⟩
  obtain ⟨hfree, hrest⟩ := hgrounded.pop hpacket
  have hpopped : Alive { ctx with frames := frames } := ⟨h.destroyed, h.freed, hrest⟩
  cases rest with
  | handlePacket => exact absurd rfl hpacket
  | doFree => exact absurd rfl hfree
  | done | startSend => exact ⟨h.destroyed, h.freed, hrest⟩
  | reset => exact hpopped.resetLoop
  | udpSendCallback =>
    rw [resume_udpSendCallback { ctx with frames := frames } h.destroyed]
    exact hpopped
  | closeNotify =>
    unfold DtlsClient.resume
    dsimp only
    split_ifs
    · exact hpopped
    · exact ⟨h.destroyed, h.freed, .push (by simp) hrest⟩

theorem step {e : DtlsClientEvent} (h : ctx.Alive) (he : e ≠ .destroy)
    (hs : dtlsClientStep ctx e = some ctx') : ctx'.Alive := by
  cases dtlsClientCase_of_step hs with
  | packet env hframes => exact h.handlePacket hframes env
  | timerClosing | sendRefused | send => exact ⟨h.destroyed, h.freed, h.frames⟩
  | timer env =>
    have hfired : Alive { ctx with timer := false } := ⟨h.destroyed, h.freed, h.frames⟩
    exact hfired.eventDoOne env
  | udpSentLast => exact ⟨h.destroyed, h.freed, .push (by simp) h.frames⟩
  | udpSent coalesced env =>
    have hsent : Alive { ctx with
        udpSends := ctx.udpSends - (coalesced + 1), sending := false, sslSendBuffer := false } :=
      ⟨h.destroyed, h.freed, h.frames⟩
    exact hsent.eventDoOne env
  | startSend ret use =>
    have hfired : Alive { ctx with startSendEvent := false } := ⟨h.destroyed, h.freed, h.frames⟩
    exact hfired.startSend ret use
  | connect env =>
    have hnew : Alive { ctx with state := .connecting, sending := false, events := [] } :=
      ⟨h.destroyed, h.freed, h.frames⟩
    exact hnew.eventDoOne env
  | reset => exact h.resetLoop
  | close record => exact h.close record
  | destroy => exact absurd rfl he
  | ret hframes => exact h.resume hframes

end Alive

end DtlsClient

end NabtoDevice
