import NabtoDevice.Proofs.Stream

/-! The packets of a stream slot in the DTLS send queue. `nc_stream_send_packet` hands the
one `sendCtx` of the slot to the DTLS server under the flag `isSending`, which
`nc_stream_dtls_send_callback` clears. The flag is not cleared where the server refuses the
packet, and `nc_stream_destroy` does not look at it: the next stream of the slot may find
the `sendCtx` in the queue. In the runs without such a step the flag says exactly whether
the packet of the current stream is on its way. -/

namespace NabtoDevice

structure SlotSends where
  active : Bool
  dtls : Option ℕ
  isSending : Bool
  dtlsSends : List ℕ
  incarnation : ℕ
  deriving DecidableEq, Repr

def NcStreamContext.sends (ctx : NcStreamContext) : SlotSends :=
  ⟨ctx.active, ctx.dtls, ctx.isSending, ctx.dtlsSends, ctx.incarnation⟩

/-! ## Reads, writes and callbacks do not touch it -/

variable (ctx : NcStreamContext) (ec : NpErrorCode)

theorem resolveAccept_sends : (ncStreamResolveAccept ctx ec).sends = ctx.sends := by
  unfold ncStreamResolveAccept
  split <;> rfl

theorem resolveWrite_sends : (ncStreamResolveWrite ctx ec).sends = ctx.sends := by
  unfold ncStreamResolveWrite
  split <;> rfl

theorem resolveClose_sends : (ncStreamResolveClose ctx ec).sends = ctx.sends := by
  unfold ncStreamResolveClose
  split <;> rfl

theorem resolveRead_sends : (ncStreamResolveRead ctx ec).sends = ctx.sends := by
  unfold ncStreamResolveRead
  split <;> rfl

theorem doRead_sends (answers : List ReadAnswer) (ctx : NcStreamContext) :
    (ncStreamDoRead ctx answers).sends = ctx.sends := by
  induction answers generalizing ctx with
  | nil => rfl
  | cons answer answers ih =>
    rw [ncStreamDoRead]
    dsimp only
    split_ifs
    · rfl
    · rfl
    · exact resolveRead_sends _ _
    · exact ih _
    · exact resolveRead_sends _ _
    · exact resolveRead_sends _ _

theorem doWriteAll_sends (answers : List WriteAnswer) (ctx : NcStreamContext) :
    (ncStreamDoWriteAll ctx answers).sends = ctx.sends := by
  induction answers generalizing ctx with
  | nil => rfl
  | cons answer answers ih =>
    rw [ncStreamDoWriteAll]
    dsimp only
    split_ifs
    · rfl
    · exact resolveWrite_sends _ _
    · exact ih _
    · exact resolveWrite_sends _ _

theorem handleClose_sends (status : NabtoStreamStatus) :
    (ncStreamHandleClose ctx status).sends = ctx.sends := by
  unfold ncStreamHandleClose
  split_ifs
  · rfl
  · split
    · rfl
    · exact resolveClose_sends ctx _
    · exact resolveClose_sends ctx _

theorem applicationEvent_sends (eventType : NabtoStreamApplicationEventType)
    (answers : ApplicationAnswers) :
    (ncStreamApplicationEventCallback ctx eventType answers).sends = ctx.sends := by
  have hwrite : (if ctx.writeCb.isSome then ncStreamDoWriteAll ctx answers.writes else ctx).sends =
      ctx.sends := by
    split_ifs
    · exact doWriteAll_sends _ _
    · rfl
  cases eventType with
  | opened => exact resolveAccept_sends ctx _
  | dataReady => exact doRead_sends _ ctx
  | dataWrite => exact hwrite
  | readClosed => exact doRead_sends _ ctx
  | writeClosed => exact resolveClose_sends ctx _
  | closed =>
    calc (ncStreamApplicationEventCallback ctx .closed answers).sends
        = _ := handleClose_sends _ _
      _ = _ := doRead_sends _ _
      _ = _ := resolveAccept_sends _ _
      _ = ctx.sends := hwrite

theorem readyForAccept_sends (listeners : List ℕ) (ctx : NcStreamContext) (contentType : ℕ)
    (kept : Bool) :
    (ncStreamManagerReadyForAccept listeners ctx contentType kept).sends = ctx.sends := by
  unfold ncStreamManagerReadyForAccept
  dsimp only
  split_ifs <;> rfl

theorem op_sends (op : StreamOp) : (ncStreamOp ctx op).2.sends = ctx.sends := by
  cases op with
  | asyncAccept userData =>
    simp only [ncStreamOp, ncStreamAsyncAccept]
    split_ifs <;> rfl
  | asyncReadAll userData bufferLength answers =>
    simp only [ncStreamOp, ncStreamAsyncReadAll]
    split_ifs
    · rfl
    · exact doRead_sends _ _
  | asyncReadSome userData bufferLength answers =>
    simp only [ncStreamOp, ncStreamAsyncReadSome]
    split_ifs
    · rfl
    · exact doRead_sends _ _
  | asyncWrite userData buffer answers =>
    simp only [ncStreamOp, ncStreamAsyncWrite]
    split_ifs
    · rfl
    · exact doWriteAll_sends _ _
  | asyncClose userData status =>
    simp only [ncStreamOp, ncStreamAsyncClose]
    split_ifs
    · rfl
    · exact handleClose_sends _ _
  | release => rfl

/-! ## The steps that send, complete or destroy -/

def eventContext (ctx : NcStreamContext) : StreamSlotEvent → NcStreamContext
  | .connectionClosed _ _ => { ctx with dtls := none }
  | .dtlsSent _ _ => { ctx with isSending := false, dtlsSends := ctx.dtlsSends.tail }
  | .init _ _ _ | .op _ | .queue _ _ | .packet _ _ => ctx

/-- What `async_send_data` answers, if the step calls it. -/
def submitResult (ctx : NcStreamContext) (e : StreamSlotEvent) : Option NpErrorCode :=
  match slotNextEvent ctx e with
  | some (.send packetSize ec) =>
    if (eventContext ctx e).isSending || packetSize == 0 then none else some ec
  | _ => none

def refusesPacket (ctx : NcStreamContext) (e : StreamSlotEvent) : Bool :=
  (submitResult ctx e).any fun ec => ec != .ok

def destroysSending (ctx : NcStreamContext) (e : StreamSlotEvent) : Bool :=
  ctx.active && decide (slotNextEvent ctx e = some .released) &&
    !(eventContext ctx e).dtlsSends.isEmpty

/-- The queue holds the packet of the current stream or nothing, as `isSending` says, and only
an active slot has a DTLS connection. -/
structure SendsInv (t : SlotSends) : Prop where
  queued : t.dtlsSends = if t.active && t.isSending then [t.incarnation] else []
  closed : t.active = false → t.dtls = none

theorem SendsInv.flag {t : SlotSends} (h : SendsInv t) (hactive : t.active = true) :
    t.isSending = true ↔ t.dtlsSends.count t.incarnation = 1 := by
  rw [h.queued, hactive]
  cases t.isSending <;> simp

theorem sendPacket_sendsInv {ctx : NcStreamContext} (h : SendsInv ctx.sends)
    (hactive : ctx.active = true) {packetSize : ℕ} {ec : NpErrorCode}
    (haccept : ctx.isSending = false → packetSize ≠ 0 → ec = .ok) :
    SendsInv (ncStreamSendPacket ctx packetSize ec).sends := by
  unfold ncStreamSendPacket
  split_ifs with hsending hempty hok
  · exact h
  · exact h
  · have hnone : ctx.dtlsSends = [] := by
      have hqueued := h.queued
      rwa [if_neg (by simp [NcStreamContext.sends, hsending])] at hqueued
    refine ⟨?_, h.closed⟩
    simp [NcStreamContext.sends, hactive, hnone]
  · exact absurd (haccept (by simpa using hsending) hempty) hok

theorem destroy_sendsInv {ctx : NcStreamContext} (h : SendsInv ctx.sends)
    (hnone : ctx.active = true → ctx.dtlsSends = []) : SendsInv (ncStreamDestroy ctx).sends := by
  unfold ncStreamDestroy
  split_ifs with hinactive
  · exact h
  · refine ⟨?_, fun _ => rfl⟩
    simpa [NcStreamContext.sends] using hnone (by simpa using hinactive)

/-- A packet is only sent over a DTLS connection. -/
theorem nextEvent_send {ctx : NcStreamContext} {answers : List NabtoStreamNextEvent}
    {packetSize : ℕ}
    {ec : NpErrorCode} (h : ncStreamNextEvent ctx answers = .send packetSize ec) :
    ctx.dtls ≠ none := by
  induction answers with
  | nil => cases h
  | cons event answers ih =>
    cases event with
    | send n ec' =>
      intro hdtls
      rw [ncStreamNextEvent, hdtls] at h
      exact ih h hdtls
    | accept | timeout | applicationEvent | timeWait | wait | nothing | released | closed => cases h

theorem event_sendsInv (listeners : List ℕ) {ctx : NcStreamContext}
    {answers : List NabtoStreamNextEvent} (h : SendsInv ctx.sends)
    (haccept : ∀ packetSize ec, ncStreamNextEvent ctx answers = .send packetSize ec →
      ctx.isSending = false → packetSize ≠ 0 → ec = .ok)
    (hidle : ncStreamNextEvent ctx answers = .released → ctx.active = true → ctx.dtlsSends = []) :
    SendsInv (ncStreamEvent listeners ctx answers).sends := by
  unfold ncStreamEvent
  cases hnext : ncStreamNextEvent ctx answers with
  | accept contentType kept => exact readyForAccept_sends listeners ctx contentType kept ▸ h
  | send packetSize ec =>
    have hactive : ctx.active = true := by
      by_contra hinactive
      exact nextEvent_send hnext (h.closed (Bool.eq_false_iff.mpr hinactive))
    exact sendPacket_sendsInv h hactive (haccept packetSize ec hnext)
  | applicationEvent eventType answers => exact applicationEvent_sends ctx eventType answers ▸ h
  | released => exact destroy_sendsInv h (hidle hnext)
  | timeout | timeWait | wait | nothing | closed => exact h

/-- A completion finds the packet of the current stream at the head of the queue. -/
theorem SendsInv.completes {ctx : NcStreamContext} (h : SendsInv ctx.sends)
    (hsends : ctx.dtlsSends ≠ []) : ctx.active = true ∧ ctx.dtlsSends = [ctx.incarnation] := by
  have hqueued : ctx.dtlsSends =
      if ctx.active && ctx.isSending then [ctx.incarnation] else [] := h.queued
  split_ifs at hqueued with hsending
  · exact ⟨(Bool.and_eq_true_iff.mp hsending).1, hqueued⟩
  · exact absurd hqueued hsends

variable {e : StreamSlotEvent}

theorem eventContext_sendsInv {ctx ctx' : NcStreamContext} (h : SendsInv ctx.sends)
    (hs : streamSlotStep ctx e = some ctx') : SendsInv (eventContext ctx e).sends := by
  cases e with
  | connectionClosed listeners answers => exact ⟨h.queued, fun _ => rfl⟩
  | dtlsSent listeners answers =>
    obtain ⟨hsends, -⟩ := Option.ite_none_left_eq_some.mp hs
    refine ⟨?_, h.closed⟩
    simp [NcStreamContext.sends, eventContext, (h.completes hsends).2]
  | init | op | queue | packet => exact h

theorem step_sendsInv {ctx ctx' : NcStreamContext} (h : SendsInv ctx.sends)
    (hrefuse : refusesPacket ctx e = false)
    (hdestroy : destroysSending ctx e = false) (hs : streamSlotStep ctx e = some ctx') :
    SendsInv ctx'.sends := by
  have hcontext := eventContext_sendsInv h hs
  have hevent (listeners : List ℕ) {answers : List NabtoStreamNextEvent}
      (hnext : slotNextEvent ctx e = some (ncStreamNextEvent (eventContext ctx e) answers))
      (hactive : (eventContext ctx e).active = ctx.active) :
      SendsInv (ncStreamEvent listeners (eventContext ctx e) answers).sends := by
    refine event_sendsInv listeners hcontext (fun packetSize ec hsend hidle hsize => ?_)
      fun hreleased hactive' => ?_
    · simpa [refusesPacket, submitResult, hnext, hsend, hidle, hsize] using hrefuse
    · simpa [destroysSending, hnext, hreleased, ← hactive, hactive'] using hdestroy
  cases e with
  | init streamId dtls connectionRef =>
    obtain ⟨hinactive, rfl⟩ := Machine.of_guard_not hs
    have hqueued : ctx.dtlsSends = [] := by
      have hqueued := h.queued
      rwa [if_neg (by simp [NcStreamContext.sends, hinactive])] at hqueued
    refine ⟨?_, nofun⟩
    simpa [NcStreamContext.sends, ncStreamInit] using hqueued
  | op op => exact Option.some.inj hs ▸ op_sends ctx op ▸ h
  | queue listeners answers =>
    obtain ⟨-, rfl⟩ := Machine.of_guard hs
    exact hevent listeners rfl rfl
  | packet listeners answers => exact Option.some.inj hs ▸ hevent listeners rfl rfl
  | connectionClosed listeners answers => exact Option.some.inj hs ▸ hevent listeners rfl rfl
  | dtlsSent listeners answers =>
    obtain ⟨-, hs⟩ := Option.ite_none_left_eq_some.mp hs
    refine Option.some.inj hs ▸ hevent listeners (congrArg some ?_) rfl
    apply ncStreamNextEvent_congr
    rfl

theorem SendsInv.submits {ctx : NcStreamContext} (h : SendsInv (eventContext ctx e).sends)
    (hsubmit : submitResult ctx e ≠ none) : (eventContext ctx e).dtlsSends = [] := by
  have hqueued := h.queued
  unfold submitResult at hsubmit
  split at hsubmit
  · split_ifs at hsubmit with hbusy
    · exact absurd rfl hsubmit
    · rw [Bool.or_eq_true, not_or, Bool.not_eq_true] at hbusy
      rwa [if_neg (by simp [NcStreamContext.sends, hbusy.1])] at hqueued
  · exact absurd rfl hsubmit

/-- In every run without a refused packet in which no stream is destroyed while its packet is in
the DTLS queue: an active slot is sending exactly if one packet of its stream is in the queue,
`sendCtx` is not in the queue when it is handed to the DTLS server, and a completion reaches the
stream that sent the packet. -/
theorem stream_sends_tracked {evs : List StreamSlotEvent}
    (hrefuse : ∀ t e, streamSlot.Takes evs t e → refusesPacket t e = false)
    (hdestroy : ∀ t e, streamSlot.Takes evs t e → destroysSending t e = false) :
    (∀ t, streamSlot.Visits evs t → t.active = true →
      (t.isSending = true ↔ t.dtlsSends.count t.incarnation = 1)) ∧
    (∀ t t' e, streamSlot.Takes evs t e → streamSlotStep t e = some t' → submitResult t e ≠ none →
      (eventContext t e).dtlsSends = []) ∧
    ∀ t t' listeners answers, streamSlot.Takes evs t (.dtlsSent listeners answers) →
      streamSlotStep t (.dtlsSent listeners answers) = some t' →
      t.active = true ∧ t.dtlsSends = [t.incarnation] := by
  have hinv : ∀ t, streamSlot.Visits evs t → SendsInv t.sends := by
    intro t hv
    refine hv.invariant_of_takes (fun t => SendsInv t.sends)
      (fun t e => refusesPacket t e = false ∧ destroysSending t e = false) ?_ ?_
      fun t e ht => ⟨hrefuse t e ht, hdestroy t e ht⟩
    · exact ⟨rfl, fun _ => rfl⟩
    · intro s e s' h hG hs
      exact step_sendsInv h hG.1 hG.2 hs
  refine ⟨fun t hv hactive => (hinv t hv).flag hactive, fun t t' e ht hs hsubmit => ?_,
    fun t t' listeners answers ht hs => ?_⟩
  · exact (eventContext_sendsInv (hinv t ht.visits) hs).submits hsubmit
  · exact (hinv t ht.visits).completes (Option.ite_none_left_eq_some.mp hs).1

theorem stream_sends_served_twice :
    ∃ t, streamSlot.Run (servedTwiceRun.take 7) t ∧ t.active = true ∧ t.isSending = true ∧
      t.dtlsSends.count t.incarnation = 1 := by
  have htracked := @stream_sends_tracked servedTwiceRun
    (fun _ _ ht => Machine.takes_eq_false_of_allTaken (by decide +kernel) ht)
    (fun _ _ ht => Machine.takes_eq_false_of_allTaken (by decide +kernel) ht)
  have hrun : ∃ t, streamSlot.Run (servedTwiceRun.take 7) t ∧ t.active = true ∧
      t.isSending = true :=
    ⟨_, Machine.run_of_exec rfl, rfl, rfl⟩
  obtain ⟨t, hr, hactive, hsending⟩ := hrun
  have hflag := htracked.1 t ⟨_, List.take_prefix _ _, hr⟩ hactive
  exact ⟨t, hr, hactive, hsending, hflag.mp hsending⟩

def releasedSendingRun : List StreamSlotEvent :=
  [.init 2 7 1, .packet [] [.send 20 .ok], .op .release, .queue [] [.released]]

/-- A refused packet leaves the slot sending with nothing in the queue. When the connection of a
released stream is removed, the completion of its packet comes to the slot without a stream. A
packet that outlives its stream is queued when the next stream of the slot sends, and its
completion then clears the flag of that stream. -/
theorem stream_sends_lost :
    (∃ t, streamSlot.Run [.init 2 7 1, .packet [] [], .queue [] [.send 20 .connectionClosing]] t ∧
      t.active = true ∧ t.isSending = true ∧ t.dtlsSends = []) ∧
    (∃ t, streamSlot.Run
        [.init 2 7 1, .packet [] [.send 20 .ok], .op .release, .connectionClosed [] [.released]] t ∧
      t.active = false ∧ t.dtlsSends = [0] ∧ t.incarnation = 1 ∧
      (streamSlotStep t (.dtlsSent [] [])).isSome) ∧
    (∃ t, streamSlot.Run (releasedSendingRun ++ [.init 4 7 1]) t ∧
      submitResult t (.packet [] [.send 20 .ok]) = some .ok ∧
      (eventContext t (.packet [] [.send 20 .ok])).dtlsSends = [0]) ∧
    ∃ t, streamSlot.Run
        (releasedSendingRun ++ [.init 4 7 1, .packet [] [.send 20 .ok], .dtlsSent [] []]) t ∧
      t.active = true ∧ t.isSending = false ∧ t.dtlsSends.count t.incarnation = 1 :=
  ⟨⟨_, Machine.run_of_exec rfl, rfl, rfl, rfl⟩, ⟨_, Machine.run_of_exec rfl, rfl, rfl, rfl, rfl⟩,
    ⟨_, Machine.run_of_exec rfl, rfl, rfl⟩, ⟨_, Machine.run_of_exec rfl, rfl, rfl, rfl⟩⟩

end NabtoDevice
