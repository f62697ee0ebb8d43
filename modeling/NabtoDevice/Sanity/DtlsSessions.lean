import NabtoDevice.Spec.DtlsSessions
import NabtoDevice.Sanity.DtlsClient

/-! What a step of the DTLS client module does to its UDP sends. It first clears what it clears
on its own and then hands at most one record to `nm_dtls_mbedtls_send`; everything else it does
is of no concern to the sends. -/

namespace NabtoDevice

variable (ctx : DtlsClient) {rest : CliFrame} {e : DtlsClientEvent}

namespace DtlsClient

structure SameSends (ctx ctx' : DtlsClient) : Prop where
  sending : ctx'.sending = ctx.sending
  buffer : ctx'.sslSendBuffer = ctx.sslSendBuffer
  udpSends : ctx'.udpSends = ctx.udpSends

theorem SameSends.refl : SameSends ctx ctx := ⟨rfl, rfl, rfl⟩

theorem SameSends.trans {ctx₁ ctx₂ ctx₃ : DtlsClient} (h : SameSends ctx₁ ctx₂)
    (h' : SameSends ctx₂ ctx₃) : SameSends ctx₁ ctx₃ :=
  ⟨h'.sending.trans h.sending, h'.buffer.trans h.buffer, h'.udpSends.trans h.udpSends⟩

theorem SameSends.mbedtlsSend {ctx ctx' : DtlsClient} (h : SameSends ctx ctx')
    (record : RecordSend) : SameSends (ctx.mbedtlsSend record) (ctx'.mbedtlsSend record) := by
  obtain ⟨hsending, hbuffer, hudp⟩ := h
  unfold DtlsClient.mbedtlsSend
  rw [hbuffer]
  split_ifs
  · exact ⟨hsending, hbuffer, hudp⟩
  cases record with
  | none => exact ⟨hsending, hbuffer, hudp⟩
  | taken => exact ⟨rfl, rfl, congrArg (· + 1) hudp⟩
  | refused => exact ⟨rfl, rfl, hudp⟩

@[simp] theorem mbedtlsSend_none : ctx.mbedtlsSend .none = ctx := by
  unfold mbedtlsSend
  split_ifs <;> rfl

theorem sameSends_doFree : SameSends ctx ctx.doFree := by
  unfold doFree
  cases ctx.sendList.waiting <;> exact ⟨rfl, rfl, rfl⟩

theorem sameSends_resume (h : rest ≠ .reset) : SameSends ctx (ctx.resume rest) := by
  cases rest with
  | reset => exact absurd rfl h
  | done | startSend => exact ⟨rfl, rfl, rfl⟩
  | doFree => exact sameSends_doFree ctx
  | handlePacket =>
    have hcleared : SameSends ctx { ctx with receiving := false } := ⟨rfl, rfl, rfl⟩
    unfold resume
    dsimp only
    split_ifs
    · exact hcleared.trans (sameSends_doFree _)
    · exact hcleared
  | udpSendCallback =>
    unfold resume
    dsimp only
    split_ifs
    · exact sameSends_doFree ctx
    · exact .refl ctx
  | closeNotify =>
    unfold resume
    dsimp only
    split_ifs <;> exact ⟨rfl, rfl, rfl⟩

theorem sameSends_eventDoOne (env : CliEnv) (h : rest ≠ .reset) :
    SameSends (ctx.mbedtlsSend (if ctx.state = .closing then .none else env.use.record))
      (ctx.eventDoOne env rest) := by
  unfold eventDoOne
  cases ctx.state with
  | closing =>
    rw [if_pos rfl, mbedtlsSend_none]
    exact sameSends_resume ctx h
  | connecting =>
    have hcalled : SameSends (ctx.mbedtlsSend env.use.record) (ctx.mbedtls env.use) :=
      ⟨rfl, rfl, rfl⟩
    rw [if_neg (by simp)]
    cases env.handshake with
    | wantReadWrite => exact hcalled.trans (sameSends_resume _ h)
    | accessDenied | error | done => exact ⟨rfl, rfl, rfl⟩
  | data =>
    have hcalled (state : SslState) : SameSends (ctx.mbedtlsSend env.use.record)
        { ctx.mbedtls env.use with state := state } := ⟨rfl, rfl, rfl⟩
    rw [if_neg (by simp)]
    cases env.read with
    | eof => exact (hcalled .closing).trans (sameSends_resume _ h)
    | wantReadWrite => exact (hcalled _).trans (sameSends_resume _ h)
    | data | accessDenied | error => exact ⟨rfl, rfl, rfl⟩

def endsReset (ctx : DtlsClient) : DtlsClientEvent → Bool
  | .reset => ctx.sendList.waiting = []
  | .ret => ctx.sendList.waiting = [] ∧ ctx.frames.head? = some .reset
  | _ => false

/-- What the step clears before it hands a record to the send function. -/
def cleared (ctx : DtlsClient) (e : DtlsClientEvent) : DtlsClient :=
  match e with
  | .udpSent coalesced _ =>
    { ctx with
      udpSends := ctx.udpSends - (coalesced + 1), sending := false, sslSendBuffer := false }
  | .connect _ => { ctx with sending := false }
  | e => if ctx.endsReset e then { ctx with sslSendBuffer := false } else ctx

theorem sameSends_resetLoop :
    SameSends (if ctx.sendList.waiting = [] then { ctx with sslSendBuffer := false } else ctx)
      ctx.resetLoop := by
  unfold resetLoop
  cases ctx.sendList.waiting <;> exact ⟨rfl, rfl, rfl⟩

theorem sameSends_close (record : RecordSend) :
    SameSends (ctx.mbedtlsSend (ctx.handed (.close record))) (ctx.close record) := by
  rw [handed]
  unfold close
  by_cases hstate : ctx.state = .closing
  · rw [if_pos hstate, if_pos hstate, mbedtlsSend_none]
    exact .refl ctx
  rw [if_neg hstate, if_neg hstate]
  have hclosing : SameSends ctx { ctx with state := .closing } := ⟨rfl, rfl, rfl⟩
  have hsame := hclosing.mbedtlsSend record
  dsimp only
  split_ifs with hrefused hsending
  · obtain ⟨rfl, hbuffer⟩ := hrefused
    simp only [mbedtlsSend, hbuffer]
    exact ⟨rfl, rfl, rfl⟩
  · exact hsame
  · exact hsame.trans ⟨rfl, rfl, rfl⟩

theorem sameSends_startSend (ret : WriteRet) (use : MbedtlsUse) :
    SameSends (ctx.mbedtlsSend (ctx.handed (.startSend ret use)))
      (startSendDeferred { ctx with startSendEvent := false } ret use) := by
  have hfired : SameSends ctx { ctx with startSendEvent := false } := ⟨rfl, rfl, rfl⟩
  rw [handed]
  unfold startSendDeferred
  dsimp only
  by_cases hstate : ctx.state = .closing
  · rw [if_pos hstate, if_pos (Or.inl hstate), mbedtlsSend_none]
    exact hfired
  by_cases hsending : ctx.sending = true
  · rw [if_neg hstate, if_pos hsending, if_pos (Or.inr (Or.inl hsending)), mbedtlsSend_none]
    exact hfired
  rw [if_neg hstate, if_neg hsending]
  cases hlist : ctx.sendList.waiting with
  | nil =>
    rw [if_pos (Or.inr (Or.inr rfl)), mbedtlsSend_none]
    exact hfired
  | cons next others =>
    rw [if_neg (by simp [hstate, hsending])]
    exact (hfired.mbedtlsSend use.record).trans ⟨rfl, rfl, rfl⟩

/-- The sends after an entry into `nm_dtls_event_do_one` from a context that differs from the
cleared one in other fields. -/
theorem sameSends_entry {ctx c : DtlsClient} {env : CliEnv} {record : RecordSend}
    (h : SameSends ctx c)
    (hrecord : record = if c.state = .closing then .none else env.use.record)
    (hrest : rest ≠ .reset) : SameSends (ctx.mbedtlsSend record) (c.eventDoOne env rest) := by
  rw [hrecord]
  exact (h.mbedtlsSend _).trans (sameSends_eventDoOne c env hrest)

theorem sameSends_ret {ctx : DtlsClient} {frames : List CliFrame}
    (hframes : ctx.frames = rest :: frames) :
    SameSends (ctx.cleared .ret) (resume { ctx with frames := frames } rest) := by
  have hpopped : SameSends ctx { ctx with frames := frames } := ⟨rfl, rfl, rfl⟩
  by_cases hrest : rest = .reset
  · subst hrest
    have hloop := sameSends_resetLoop { ctx with frames := frames }
    by_cases hwaiting : ctx.sendList.waiting = []
    · rw [if_pos hwaiting] at hloop
      have hcleared : ctx.cleared .ret = { ctx with sslSendBuffer := false } := by
        simp [cleared, endsReset, hwaiting, hframes]
      have hsame : SameSends { ctx with sslSendBuffer := false }
          { ctx with frames := frames, sslSendBuffer := false } := ⟨rfl, rfl, rfl⟩
      rw [hcleared]
      exact hsame.trans hloop
    · rw [if_neg hwaiting] at hloop
      have hcleared : ctx.cleared .ret = ctx := by simp [cleared, endsReset, hwaiting]
      rw [hcleared]
      exact hpopped.trans hloop
  · have hcleared : ctx.cleared .ret = ctx := by simp [cleared, endsReset, hframes, hrest]
    rw [hcleared]
    exact hpopped.trans (sameSends_resume _ hrest)

theorem sameSends_step {ctx ctx' : DtlsClient} (hs : dtlsClientStep ctx e = some ctx') :
    SameSends ((ctx.cleared e).mbedtlsSend (ctx.handed e)) ctx' := by
  cases dtlsClientCase_of_step hs with
  | packet env | timer env | udpSent coalesced env | connect env =>
    exact sameSends_entry ⟨rfl, rfl, rfl⟩ rfl (by simp)
  | timerClosing env hframes hclosing | udpSentLast coalesced env hframes hsent hclosing =>
    rw [handed, if_pos hclosing, mbedtlsSend_none]
    exact ⟨rfl, rfl, rfl⟩
  | startSend ret use => exact sameSends_startSend ctx ret use
  | reset => simpa [cleared, endsReset, handed] using sameSends_resetLoop ctx
  | close record => exact sameSends_close ctx record
  | sendRefused sendCtx | send sendCtx =>
    rw [handed, mbedtlsSend_none]
    exact ⟨rfl, rfl, rfl⟩
  | destroy =>
    have hclosed : SameSends ctx { ctx with state := .closing, destroyed := true } :=
      ⟨rfl, rfl, rfl⟩
    rw [handed, mbedtlsSend_none, destroy]
    dsimp only
    split_ifs
    · exact hclosed.trans (sameSends_doFree _)
    · exact hclosed
  | ret hframes =>
    rw [handed, mbedtlsSend_none]
    exact sameSends_ret hframes

/-- Only a connect leaves `CLOSING`. -/
theorem closing_step {ctx ctx' : DtlsClient} (hs : dtlsClientStep ctx e = some ctx')
    (hclosing : ctx.state = .closing) (he : ∀ env, e ≠ .connect env) : ctx'.state = .closing := by
  cases hentry : ctx.entry e with
  | some entered =>
    obtain ⟨c, env⟩ := entered
    have hc : c.state = .closing := by
      cases e with
      | packet env' =>
        obtain ⟨rfl, -⟩ := Prod.mk.inj (Option.some.inj hentry)
        exact hclosing
      | connect env' => exact absurd rfl (he env')
      | timer env' | udpSent coalesced env' => simp [entry, hclosing] at hentry
      | startSend ret use | reset | close record | send sendCtx | destroy | ret => cases hentry
    rw [(linked_step hentry hs).state, hc]
    rfl
  | none =>
    have hrelinks := relinks_step hentry hs
    generalize ctx.delivered e = event at hrelinks
    cases hrelinks with
    | same h => exact h.state.trans hclosing
    | writes use hopen => exact absurd hclosing hopen
    | waits record hsending h => exact h.state
    | destroys h => exact h.state
    | closes hstate h => exact h.state.trans (hstate.elim (·.trans hclosing) id)

/-- No record is handed over in `CLOSING`, except by a connect. -/
theorem handed_closing {ctx : DtlsClient} (hclosing : ctx.state = .closing)
    (he : ∀ env, e ≠ .connect env) : ctx.handed e = .none := by
  cases e with
  | connect env => exact absurd rfl (he env)
  | packet env | timer env | udpSent coalesced env | close record => exact if_pos hclosing
  | startSend ret use => exact if_pos (Or.inl hclosing)
  | reset | send sendCtx | destroy | ret => rfl

theorem cleared_of_plain (hsent : ∀ n env, e ≠ .udpSent n env)
    (hconnect : ∀ env, e ≠ .connect env) :
    ctx.cleared e = if ctx.endsReset e then { ctx with sslSendBuffer := false } else ctx := by
  cases e with
  | udpSent n env => exact absurd rfl (hsent n env)
  | connect env => exact absurd rfl (hconnect env)
  | _ => rfl

theorem full_of_plain (hsent : ∀ n env, e ≠ .udpSent n env) : ctx.full e = ctx.sslSendBuffer := by
  cases e with
  | udpSent n env => exact absurd rfl (hsent n env)
  | _ => rfl

/-- The context after the end of a reset. -/
theorem endsReset_step {ctx ctx' : DtlsClient} (hend : ctx.endsReset e = true)
    (hs : dtlsClientStep ctx e = some ctx') :
    ctx'.state = ctx.state ∧ ctx'.destroyed = ctx.destroyed ∧ ctx'.freed = false ∧
      ctx'.sslSendBuffer = false := by
  have hfreed := Bool.eq_false_of_not_eq_true (Option.ite_none_left_eq_some.mp hs).1
  cases dtlsClientCase_of_step hs with
  | reset hlive =>
    have hwaiting : ctx.sendList.waiting = [] := of_decide_eq_true hend
    simp [resetLoop, hwaiting, hfreed]
  | ret hframes =>
    obtain ⟨hwaiting, hhead⟩ := of_decide_eq_true hend
    rw [hframes, List.head?_cons, Option.some.injEq] at hhead
    subst hhead
    simp [resume, resetLoop, hwaiting, hfreed]
  | _ => cases hend

/-- The send function does nothing. -/
theorem mbedtlsSend_idle {ctx : DtlsClient} {record : RecordSend}
    (h : ctx.sslSendBuffer = true ∨ record = .none) : ctx.mbedtlsSend record = ctx := by
  rcases h with hbuffer | rfl
  · exact if_pos hbuffer
  · exact mbedtlsSend_none ctx

end DtlsClient

end NabtoDevice
