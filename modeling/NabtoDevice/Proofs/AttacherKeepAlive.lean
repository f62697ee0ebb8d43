import NabtoDevice.Proofs.Attacher
import NabtoDevice.Sanity.AttacherUpdates

/-! The flag `isSending` of the keep-alive module and the queue of the DTLS client. The flag is
set when a packet is written into the send buffer and cleared by the callback of the send
context, which the DTLS client calls for a packet it has taken. -/

namespace NabtoDevice

def KeepAliveQueued (ctx : NcAttachContext) : Prop := .keepAlive ∈ ctx.dtls.sendList

instance (ctx : NcAttachContext) : Decidable (KeepAliveQueued ctx) :=
  inferInstanceAs (Decidable (_ ∈ _))

/-- The send context is queued once while the flag is set and not at all otherwise. The queue
must not hold it twice: the callback of the first copy would clear the flag. -/
def KeepAliveTracked (ctx : NcAttachContext) : Prop :=
  ctx.dtls.sendList.count .keepAlive = ctx.keepAlive.isSending.toNat

variable {ctx : NcAttachContext}

theorem KeepAliveTracked.isSending_iff (h : KeepAliveTracked ctx) :
    ctx.keepAlive.isSending = true ↔ KeepAliveQueued ctx := by
  unfold KeepAliveQueued
  rw [← List.count_pos_iff, h]
  cases ctx.keepAlive.isSending <;> simp

variable {ctx' : NcAttachContext}

theorem KeepAliveTracked.of_eq (h : KeepAliveTracked ctx)
    (hlist : ctx'.dtls.sendList = ctx.dtls.sendList)
    (hsending : ctx'.keepAlive.isSending = ctx.keepAlive.isSending) : KeepAliveTracked ctx' := by
  unfold KeepAliveTracked
  rw [hlist, hsending]
  exact h

structure SendKept (ctx ctx' : NcAttachContext) : Prop where
  tracked : KeepAliveTracked ctx → KeepAliveTracked ctx'
  buffer : ctx'.keepAlive.sendBuffer = ctx.keepAlive.sendBuffer

namespace SendKept

theorem of_eq (hlist : ctx'.dtls.sendList = ctx.dtls.sendList)
    (hsending : ctx'.keepAlive.isSending = ctx.keepAlive.isSending)
    (hbuffer : ctx'.keepAlive.sendBuffer = ctx.keepAlive.sendBuffer) : SendKept ctx ctx' :=
  ⟨fun h => h.of_eq hlist hsending, hbuffer⟩

theorem trans {ctx₁ ctx₂ ctx₃ : NcAttachContext} (h : SendKept ctx₁ ctx₂)
    (h' : SendKept ctx₂ ctx₃) : SendKept ctx₁ ctx₃ :=
  ⟨h'.tracked ∘ h.tracked, h'.buffer.trans h.buffer⟩

end SendKept

theorem sendContextCbs (l : List CliSendContext) (ctx : NcAttachContext) :
    (l.foldl sendContextCb ctx).keepAlive.sendBuffer = ctx.keepAlive.sendBuffer ∧
      ((l.foldl sendContextCb ctx).keepAlive.isSending = true ↔
        ctx.keepAlive.isSending = true ∧ .keepAlive ∉ l) := by
  induction l generalizing ctx with
  | nil => simp
  | cons s l ih =>
    obtain ⟨hbuffer, hsending⟩ := ih (sendContextCb ctx s)
    rw [List.foldl_cons, hbuffer, hsending]
    cases s with
    | coap => simp [sendContextCb]
    | keepAlive => simp [sendContextCb, ncKeepAlivePacketSent]

/-- The reset completes every send, so it clears the flag of a queued packet. -/
theorem sendKept_dtlsReset (ctx : NcAttachContext) : SendKept ctx (dtlsReset ctx) := by
  obtain ⟨hbuffer, hsending⟩ := sendContextCbs ctx.dtls.sendList ctx
  refine ⟨fun h => ?_, hbuffer⟩
  have hfree : (ctx.dtls.sendList.foldl sendContextCb ctx).keepAlive.isSending = false := by
    rw [← Bool.not_eq_true, hsending, h.isSending_iff]
    exact fun hboth => hboth.2 hboth.1
  simp [KeepAliveTracked, dtlsReset, nmMbedtlsCliReset, hfree]

theorem sendList_asyncSendData (d : NpDtlsCli) (s : CliSendContext) (hopen : d.state ≠ .closing) :
    (asyncSendData d s).sendList = d.sendList ++ [s] := by
  unfold asyncSendData
  rw [if_neg hopen]

theorem AttacherUpdate.sendKept (h : AttacherUpdate ctx ctx') : SendKept ctx ctx' := by
  cases h with
  | aside h =>
    simp only [essence, Prod.mk.injEq] at h
    obtain ⟨-, -, -, -, hdtls, hsending, hbuffer, -⟩ := h
    exact .of_eq (congrArg NpDtlsCli.sendList hdtls) hsending hbuffer
  | dtls h => exact .of_eq h.queue rfl rfl
  | told => exact .of_eq rfl rfl rfl
  | enter hs => rcases hs with rfl | rfl | rfl | rfl <;> exact .of_eq rfl rfl rfl
  | follow => exact .of_eq rfl rfl rfl
  | reset => exact sendKept_dtlsReset ctx
  | @write next rest d hlist h =>
    have hqueue : d.sendList = rest := h.queue
    cases next with
    | coap =>
      refine ⟨fun htracked => ?_, rfl⟩
      rw [KeepAliveTracked, hlist] at htracked
      simpa [KeepAliveTracked, sendContextCb, hqueue] using htracked
    | keepAlive =>
      refine ⟨fun htracked => ?_, rfl⟩
      rw [KeepAliveTracked, hlist, List.count_cons_self] at htracked
      have hle := Bool.toNat_le ctx.keepAlive.isSending
      simp only [KeepAliveTracked, sendContextCb, ncKeepAlivePacketSent, hqueue, Bool.toNat_false]
      omega

theorem Evolves.sendKept (h : Evolves ctx ctx') : SendKept ctx ctx' := by
  induction h with
  | refl => exact .of_eq rfl rfl rfl
  | tail _ hu ih => exact ih.trans hu.sendKept

/-- A new packet is written only while none is queued. -/
theorem Requeues.tracked (h : Requeues ctx ctx') (htracked : KeepAliveTracked ctx) :
    KeepAliveTracked ctx' ∧ ¬ KeepAliveQueued ctx := by
  obtain ⟨hsends, hopen, hfree, hset⟩ := h
  refine ⟨?_, fun hq => ?_⟩
  · rw [KeepAliveTracked, hfree] at htracked
    simp [KeepAliveTracked, sendList_asyncSendData _ _ hopen, hsends.queue, htracked, hset]
  · rw [← htracked.isSending_iff, hfree] at hq
    cases hq

def QueueSafe (ctx ctx' : NcAttachContext) : Prop :=
  KeepAliveTracked ctx' ∧
    (KeepAliveQueued ctx → ctx'.keepAlive.sendBuffer = ctx.keepAlive.sendBuffer)

theorem Evolves.queueSafe (h : Evolves ctx ctx') (htracked : KeepAliveTracked ctx) :
    QueueSafe ctx ctx' :=
  ⟨h.sendKept.tracked htracked, fun _ => h.sendKept.buffer⟩

theorem Requeues.queueSafe (h : Requeues ctx ctx') (htracked : KeepAliveTracked ctx) :
    QueueSafe ctx ctx' :=
  ⟨(h.tracked htracked).1, fun hq => absurd hq (h.tracked htracked).2⟩

variable {e : AttacherEvent}

theorem Suppresses.untracked (h : Suppresses ctx ctx') (htracked : KeepAliveTracked ctx) :
    ctx'.keepAlive.isSending = true ∧ ¬ KeepAliveQueued ctx ∧ ¬ KeepAliveQueued ctx' := by
  have hnot : ¬ KeepAliveQueued ctx := by
    rw [← htracked.isSending_iff, h.free]
    exact Bool.false_ne_true
  obtain ⟨ka, rfl⟩ := h.same
  exact ⟨h.written, hnot, hnot⟩

theorem queueSafe_step (htracked : KeepAliveTracked ctx) (hstep : attacherStep ctx e = some ctx') :
    suppresses ctx e = false ∧ QueueSafe ctx ctx' ∨
      suppresses ctx e = true ∧ ctx'.keepAlive.isSending = true ∧ ¬ KeepAliveQueued ctx ∧
        ¬ KeepAliveQueued ctx' := by
  by_cases hcoap : e = .coapSend
  · subst hcoap
    refine Or.inl ⟨rfl, ?_⟩
    cases attacherCase_of_step hstep with
    | coapBusy => exact ⟨htracked, fun _ => rfl⟩
    | coapSend =>
      refine ⟨?_, fun _ => rfl⟩
      unfold KeepAliveTracked asyncSendData
      split_ifs
      · exact htracked
      · simpa using show ctx.dtls.sendList.count .keepAlive =
          ctx.keepAlive.isSending.toNat from htracked
  obtain ⟨ctx₁, hqueue, hcase⟩ := queue_step hcoap hstep
  obtain ⟨hlist, -, hka⟩ : ctx₁.dtls.sendList = ctx.dtls.sendList ∧ _ ∧
      ctx₁.keepAlive = ctx.keepAlive := by
    simpa [sendQueue] using hqueue
  have htracked₁ : KeepAliveTracked ctx₁ := htracked.of_eq hlist (by rw [hka])
  have hsafe (h : QueueSafe ctx₁ ctx') : QueueSafe ctx ctx' := by
    unfold QueueSafe KeepAliveQueued at h
    rwa [hlist, hka] at h
  obtain ⟨hquiet, hev | hre⟩ | ⟨hsup, h⟩ := hcase
  · exact Or.inl ⟨hquiet, hsafe (hev.queueSafe htracked₁)⟩
  · exact Or.inl ⟨hquiet, hsafe (hre.queueSafe htracked₁)⟩
  · have huntracked := h.untracked htracked₁
    unfold KeepAliveQueued at huntracked
    rw [hlist] at huntracked
    exact Or.inr ⟨hsup, huntracked⟩

theorem keepAliveTracked_init : KeepAliveTracked attacher.init := rfl

theorem keepAliveTracked_visits {evs : List AttacherEvent} (hv : attacher.Visits evs ctx)
    (hquiet : ∀ t e, attacher.Takes evs t e → suppresses t e = false) : KeepAliveTracked ctx := by
  apply hv.invariant_of_takes KeepAliveTracked
    (fun t e => suppresses t e = false) keepAliveTracked_init ?_ hquiet
  intro t e t' htracked hq hstep
  obtain ⟨-, hsafe⟩ | ⟨hsup, -⟩ := queueSafe_step htracked hstep
  · exact hsafe.1
  · exact absurd hq (by simp [hsup])

/-- In every state the flag says that the packet is with the DTLS client, and the send buffer is
not written while it is there, if and only if no tick writes a keep-alive request while the DTLS
client is closing. -/
theorem keepAlive_flag_iff {evs : List AttacherEvent} {last : NcAttachContext}
    (hrun : attacher.Run evs last) :
    ((∀ ctx, attacher.Visits evs ctx → (ctx.keepAlive.isSending = true ↔ KeepAliveQueued ctx)) ∧
        ∀ ctx e ctx', attacher.Takes evs ctx e → attacherStep ctx e = some ctx' →
          KeepAliveQueued ctx → ctx'.keepAlive.sendBuffer = ctx.keepAlive.sendBuffer) ↔
      ∀ ctx e, attacher.Takes evs ctx e → suppresses ctx e = false := by
  have hflag := hrun.good_iff_takes KeepAliveTracked
    (fun ctx => ctx.keepAlive.isSending = true ↔ KeepAliveQueued ctx)
    (fun ctx e => suppresses ctx e = false) keepAliveTracked_init
    keepAliveTracked_init.isSending_iff (by
      intro ctx e ctx' htracked hgood hstep
      obtain ⟨hquiet, hsafe⟩ | ⟨hsup, hset, -, hnot⟩ := queueSafe_step htracked hstep
      · exact ⟨iff_of_true hsafe.1.isSending_iff hquiet, fun _ => hsafe.1⟩
      · have hbad : ¬ (ctx'.keepAlive.isSending = true ↔ KeepAliveQueued ctx') :=
          fun hiff => hnot (hiff.mp hset)
        have hloud : ¬ suppresses ctx e = false := by simp [hsup]
        exact ⟨iff_of_false hbad hloud, fun hq => absurd hq hloud⟩)
  refine ⟨fun h => hflag.mp h.1, fun hquiet => ⟨hflag.mpr hquiet, ?_⟩⟩
  intro ctx e ctx' ht hstep
  obtain ⟨-, hsafe⟩ | ⟨hsup, -⟩ := queueSafe_step (keepAliveTracked_visits ht.visits hquiet) hstep
  · exact hsafe.2
  · exact absurd (hquiet ctx e ht) (by simp [hsup])

def silentRun (n : ℕ) : List AttacherEvent :=
  .start :: attachRun ++ List.replicate n (.keepAlive {})

/-- The DTLS client takes the keep-alive request of the device. -/
theorem keepAlive_flag_request :
    ∃ ctx, attacher.Run (silentRun 17) ctx ∧ KeepAliveQueued ctx ∧
      ∀ t, attacher.Visits (silentRun 17) t →
        (t.keepAlive.isSending = true ↔ KeepAliveQueued t) := by
  have hr : attacher.Run (silentRun 17) _ := Machine.run_of_exec rfl
  have hall : attacher.allTaken (fun t e => !suppresses t e) attacher.init
      (silentRun 17) = true := by
    decide +kernel
  refine ⟨_, hr, by decide +kernel, ((keepAlive_flag_iff hr).mpr fun t e ht => ?_).1⟩
  simpa using Machine.takes_of_allTaken hall ht

/-- The device is closed in the silence, and the next tick comes before the close notify is sent. -/
def closingTickRun : List AttacherEvent :=
  silentRun 16 ++ [.asyncClose { closeNotify := true }, .keepAlive {}]

/-- The connection ends in the silence while a record is being sent. The device attaches again
after the completion of that send. -/
def endedTickRun : List AttacherEvent :=
  silentRun 16 ++
    [.packet { read := .eof, call := ⟨true, false⟩ }, .keepAlive {}, .udpSent 0 {}, .reattach] ++
    attachRun

/-- The flag is set for a packet that nobody has, in the second run on a new connection too. -/
theorem keepAlive_flag_stuck :
    (∃ ctx, attacher.Run closingTickRun ctx ∧ ctx.dtls.state = .closing ∧
        ctx.keepAlive.isSending = true ∧ ¬ KeepAliveQueued ctx) ∧
      ∃ ctx, attacher.Run endedTickRun ctx ∧ ctx.state = .attached ∧ ctx.dtls.state = .data ∧
        ctx.keepAlive.isSending = true ∧ ¬ KeepAliveQueued ctx :=
  ⟨⟨_, Machine.run_of_exec rfl, by decide +kernel⟩, ⟨_, Machine.run_of_exec rfl, by decide +kernel⟩⟩

end NabtoDevice
