import NabtoDevice.Sanity.AttacherUpdates
import Mathlib.Algebra.Order.Group.Nat

/-! The send context of the CoAP client in the send list of the DTLS client, and what the
functions of the attacher do to it. All but `nc_coap_client_handle_send` leave it where it is
or call it back, which clears `isSending`. -/

namespace NabtoDevice

def coapOutstanding (ctx : NcAttachContext) : ℕ := ctx.dtls.sendList.count .coap

def SendSettles (ctx ctx' : NcAttachContext) : Prop :=
  ctx'.coapIsSending = ctx.coapIsSending ∧ coapOutstanding ctx' = coapOutstanding ctx ∨
    ctx'.coapIsSending = false ∧ coapOutstanding ctx' < coapOutstanding ctx

variable (ctx : NcAttachContext)

theorem SendSettles.refl : SendSettles ctx ctx := Or.inl ⟨rfl, rfl⟩

theorem SendSettles.trans {a b c : NcAttachContext} (h : SendSettles a b) (h' : SendSettles b c) :
    SendSettles a c := by
  rcases h' with ⟨hflag', hcount'⟩ | ⟨hflag', hcount'⟩
  · rcases h with ⟨hflag, hcount⟩ | ⟨hflag, hcount⟩
    · exact Or.inl ⟨hflag'.trans hflag, hcount'.trans hcount⟩
    · exact Or.inr ⟨hflag'.trans hflag, by omega⟩
  · refine Or.inr ⟨hflag', ?_⟩
    rcases h with ⟨-, hcount⟩ | ⟨-, hcount⟩ <;> omega

theorem SendSettles.of_sendList {ctx ctx' : NcAttachContext}
    (hflag : ctx'.coapIsSending = ctx.coapIsSending)
    (hlist : ctx'.dtls.sendList = ctx.dtls.sendList) : SendSettles ctx ctx' :=
  Or.inl ⟨hflag, by rw [coapOutstanding, hlist, coapOutstanding]⟩

theorem foldl_sendContextCb (sends : List CliSendContext) (ctx : NcAttachContext) :
    (sends.foldl sendContextCb ctx).coapIsSending =
      (ctx.coapIsSending && !sends.contains .coap) := by
  induction sends generalizing ctx with
  | nil => simp
  | cons send sends ih =>
    rw [List.foldl_cons, ih]
    cases send <;> simp [sendContextCb]

/-- The reset calls back all send contexts. -/
theorem sendSettles_dtlsReset : SendSettles ctx (dtlsReset ctx) := by
  have hflag : (dtlsReset ctx).coapIsSending =
      (ctx.coapIsSending && !ctx.dtls.sendList.contains .coap) := foldl_sendContextCb _ ctx
  have hnone : coapOutstanding (dtlsReset ctx) = 0 := rfl
  by_cases hqueued : CliSendContext.coap ∈ ctx.dtls.sendList
  · right
    have hpos : 0 < coapOutstanding ctx := List.count_pos_iff.mpr hqueued
    exact ⟨by simp [hflag, hqueued], by omega⟩
  · left
    have hzero : coapOutstanding ctx = 0 := List.count_eq_zero.mpr hqueued
    exact ⟨by simp [hflag, hqueued], by omega⟩

variable {ctx : NcAttachContext} {ctx' : NcAttachContext}

theorem AttacherUpdate.settles (h : AttacherUpdate ctx ctx') : SendSettles ctx ctx' := by
  cases h with
  | aside h =>
    simp only [essence, Prod.mk.injEq] at h
    obtain ⟨-, -, -, -, hdtls, -, -, hflag⟩ := h
    exact .of_sendList hflag (congrArg NpDtlsCli.sendList hdtls)
  | dtls h => exact .of_sendList rfl h.queue
  | told | follow => exact .of_sendList rfl rfl
  | enter hs => rcases hs with rfl | rfl | rfl | rfl <;> exact .of_sendList rfl rfl
  | reset => exact sendSettles_dtlsReset ctx
  | @write next rest d hlist h =>
    -- the send context that is taken from the list is called back at once
    have hrest : d.sendList = rest := h.queue
    cases next with
    | coap => exact Or.inr ⟨rfl, by simp [coapOutstanding, sendContextCb, hrest, hlist]⟩
    | keepAlive => exact Or.inl ⟨rfl, by simp [coapOutstanding, sendContextCb, hrest, hlist]⟩

theorem Evolves.settles (h : Evolves ctx ctx') : SendSettles ctx ctx' := by
  induction h with
  | refl => exact .refl ctx
  | tail _ hu ih => exact ih.trans hu.settles

theorem Requeues.settles (h : Requeues ctx ctx') : SendSettles ctx ctx' := by
  obtain ⟨hsends, hopen, -, -⟩ := h
  exact Or.inl ⟨rfl, by simp [coapOutstanding, asyncSendData, hopen, hsends.queue]⟩

/-- Every step of the attacher but the sending of a CoAP packet settles. -/
theorem attacherStep_settles {e : AttacherEvent} (he : e ≠ .coapSend)
    (hs : attacherStep ctx e = some ctx') : SendSettles ctx ctx' := by
  obtain ⟨ctx₁, hqueue, hcase⟩ := queue_step he hs
  obtain ⟨hlist, hflag, -⟩ : ctx₁.dtls.sendList = ctx.dtls.sendList ∧
      ctx₁.coapIsSending = ctx.coapIsSending ∧ _ := by
    simpa [sendQueue] using hqueue
  refine (SendSettles.of_sendList hflag hlist).trans ?_
  rcases hcase with ⟨-, hev | hre⟩ | ⟨-, hsup⟩
  · exact hev.settles
  · exact hre.settles
  · obtain ⟨ka, rfl⟩ := hsup.same
    exact .refl ctx₁

theorem attacherStep_coapSend (hs : attacherStep ctx .coapSend = some ctx') :
    ctx' = ncCoapClientHandleSend ctx := by
  obtain ⟨-, rfl⟩ := Machine.of_guard hs
  rfl

end NabtoDevice
