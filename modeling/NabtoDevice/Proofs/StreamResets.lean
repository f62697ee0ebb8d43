import NabtoDevice.Spec.StreamResets
import Mathlib.Tactic.Common

/-! The buffer of the stream manager's resets. There is one for all connections, so the
reset packets in the send lists of all connections are counted together. -/

namespace NabtoDevice

variable {conn : ℕ} {flags : NabtoStreamFlags}

namespace StreamResets

def rsts (s : StreamResets) (conn : ℕ) : ℕ :=
  (s.dtls conn).elim 0 fun dtls => dtls.sendList.count .rst

structure Sound (s : StreamResets) : Prop where
  rstBuf_eq : s.manager.rstBuf = s.buffer.isSome
  /-- There is a buffer exactly if a reset is outstanding that the DTLS layer accepted. -/
  outstanding : s.manager.rstBuf = true ↔ ∃ conn, 0 < s.rsts conn
  le_one : ∀ conn, s.rsts conn ≤ 1
  unique : ∀ conn conn', 0 < s.rsts conn → 0 < s.rsts conn' → conn = conn'
  /-- The buffers that were allocated have each been freed once, up to the one in use. -/
  freed : s.freed ++ s.buffer.toList.map some = (List.range s.allocated).map some

variable {s s' : StreamResets}

/-! ### What the steps do to the resets -/

structure SameBuffer (s s' : StreamResets) : Prop where
  rstBuf : s'.manager.rstBuf = s.manager.rstBuf
  buffer : s'.buffer = s.buffer
  allocated : s'.allocated = s.allocated
  freed : s'.freed = s.freed

theorem Sound.of_same (hs : s.Sound) (h : SameBuffer s s') (hrsts : s'.rsts = s.rsts) :
    s'.Sound := by
  refine ⟨?_, ?_, hrsts ▸ hs.le_one, hrsts ▸ hs.unique, ?_⟩
  · rw [h.rstBuf, h.buffer]
    exact hs.rstBuf_eq
  · rw [h.rstBuf, hrsts]
    exact hs.outstanding
  · rw [h.freed, h.buffer, h.allocated]
    exact hs.freed

theorem rsts_setDtls (s : StreamResets) (conn : ℕ) (dtls : Option SrvSends) :
    (s.setDtls conn dtls).rsts =
      Function.update s.rsts conn (dtls.elim 0 fun dtls => dtls.sendList.count .rst) := by
  funext c
  unfold rsts setDtls
  rcases eq_or_ne c conn with rfl | hne
  · simp only [Function.update_self]
  · simp only [Function.update_of_ne hne]

theorem rsts_setDtls_same {dtls : Option SrvSends}
    (h : (dtls.elim 0 fun dtls => dtls.sendList.count .rst) = s.rsts conn) :
    (s.setDtls conn dtls).rsts = s.rsts := by
  rw [rsts_setDtls, h, Function.update_eq_self]

theorem rsts_of_some {dtls : SrvSends} (h : s.dtls conn = some dtls) :
    s.rsts conn = dtls.sendList.count .rst := by
  rw [rsts, h, Option.elim_some]

/-- No connection has a reset in its list once the one that had it is without. -/
theorem Sound.update_zero (h : s.Sound) (hconn : s.rsts conn = 1)
    (hrsts : s'.rsts = Function.update s.rsts conn 0) (c : ℕ) : s'.rsts c = 0 := by
  rw [hrsts]
  rcases eq_or_ne c conn with rfl | hne
  · exact Function.update_self ..
  · rw [Function.update_of_ne hne]
    by_contra hc
    exact hne (h.unique c conn (Nat.pos_of_ne_zero hc) (by omega))

/-- The reset leaves its send list and the callback frees the buffer. -/
theorem Sound.callback (hs : s.Sound) (hconn : s.rsts conn = 1) (hsame : SameBuffer s s')
    (hrsts : s'.rsts = Function.update s.rsts conn 0) : s'.sendRstCallback.Sound := by
  have hzero : ∀ c, s'.sendRstCallback.rsts c = 0 := hs.update_zero hconn hrsts
  have hbuf : s.manager.rstBuf = true := hs.outstanding.mpr ⟨conn, by omega⟩
  obtain ⟨n, hn⟩ := Option.isSome_iff_exists.mp (hs.rstBuf_eq ▸ hbuf)
  refine ⟨rfl, iff_of_false Bool.false_ne_true ?_, ?_, ?_, ?_⟩
  · rintro ⟨c, hc⟩
    exact absurd (hzero c) (Nat.ne_of_gt hc)
  · exact fun c => (hzero c).symm ▸ Nat.zero_le 1
  · exact fun c _ hpos => absurd (hzero c) (Nat.ne_of_gt hpos)
  · have hfreed := hs.freed
    rw [hn] at hfreed
    simp only [sendRstCallback, hsame.freed, hsame.buffer, hsame.allocated, hn, Option.toList_none,
      List.map_nil, List.append_nil]
    exact hfreed

theorem foldl_sendCb_of_zero {sendList : List SrvSendCtx} (h : sendList.count .rst = 0)
    (s : StreamResets) : sendList.foldl sendCb s = s := by
  induction sendList with
  | nil => rfl
  | cons sendCtx sendList ih =>
    cases sendCtx with
    | rst => rw [List.count_cons_self] at h; omega
    | other => exact ih (by rwa [List.count_cons_of_ne (by decide)] at h)

theorem foldl_sendCb_of_one {sendList : List SrvSendCtx} (h : sendList.count .rst = 1)
    (s : StreamResets) : sendList.foldl sendCb s = s.sendRstCallback := by
  induction sendList with
  | nil => cases h
  | cons sendCtx sendList ih =>
    cases sendCtx with
    | rst =>
      rw [List.count_cons_self] at h
      have hzero : sendList.count .rst = 0 := by omega
      exact foldl_sendCb_of_zero hzero _
    | other => exact ih (by rwa [List.count_cons_of_ne (by decide)] at h)

/-! ### The other functions of the manager do not touch the buffer -/

theorem rstBuf_deliver (ctx : NcStreamManager) (kind : DeliveryKind) (i : ℕ)
    (handle : NcStreamContext → NcStreamContext) :
    (ctx.deliver kind i handle).rstBuf = ctx.rstBuf := by
  unfold NcStreamManager.deliver
  split <;> rfl

theorem rstBuf_removeConnection (ctx : NcStreamManager) (conn : ℕ)
    (answers : ℕ → List NabtoStreamNextEvent) :
    (ncStreamManagerRemoveConnection ctx conn answers).rstBuf = ctx.rstBuf := by
  unfold ncStreamManagerRemoveConnection
  generalize List.range ctx.slots.length = slots
  induction slots generalizing ctx with
  | nil => rfl
  | cons i slots ih =>
    rw [List.foldl_cons, ih]
    unfold removeConnectionAt
    split_ifs
    · exact rstBuf_deliver ..
    · rfl

theorem rstBuf_slotFor {ctx ctx' : NcStreamManager} {connectionRef streamId i : ℕ}
    {packetFlags : UInt8} {created : Bool}
    (h : ncStreamManagerSlotFor flags ctx conn connectionRef streamId packetFlags created =
      some (i, ctx')) :
    ctx'.rstBuf = ctx.rstBuf := by
  unfold ncStreamManagerSlotFor ncStreamManagerAcceptStream at h
  split at h
  · cases h
    rfl
  · split_ifs at h
    · split at h <;> cases h
      rfl
    · split at h <;> cases h

theorem rstBuf_handlePacket {ctx : NcStreamManager} (h : ctx.rstBuf = true) (conn connectionRef : ℕ)
    (packet : StreamPacket) :
    (ncStreamManagerHandlePacket flags ctx conn connectionRef packet).rstBuf = true := by
  unfold ncStreamManagerHandlePacket
  split
  · exact h
  · split
    · next i ctx' hslot => rw [rstBuf_deliver, rstBuf_slotFor hslot, h]
    · split_ifs
      · rw [ncStreamManagerSendRst, if_pos h, h]
      · exact h

theorem rstBuf_managerStep {event : StreamManagerEvent}
    (h : s.step flags (.manager event) = some s') :
    ∃ manager, s' = { s with manager := manager } ∧ manager.rstBuf = s.manager.rstBuf := by
  unfold step at h
  cases event with
  | packet | rstSent | removeConnection => cases h
  | queue i answers | dtlsSent i answers | op i op =>
    obtain ⟨manager, hm, rfl⟩ := Option.map_eq_some_iff.mp h
    obtain ⟨slot, -, rfl⟩ := Option.map_eq_some_iff.mp hm
    exact ⟨_, rfl, rfl⟩
  | addListener type draws =>
    obtain ⟨manager, hm, rfl⟩ := Option.map_eq_some_iff.mp h
    cases hm
    refine ⟨_, rfl, ?_⟩
    unfold ncStreamManagerAddListener
    split
    · rfl
    · split_ifs <;> rfl
  | removeListener type =>
    obtain ⟨manager, hm, rfl⟩ := Option.map_eq_some_iff.mp h
    cases hm
    exact ⟨_, rfl, rfl⟩

/-! ### Every step -/

variable {dtls : SrvSends}

theorem Sound.createConnection (hs : s.Sound) (hconn : s.dtls conn = none) :
    (s.setDtls conn (some ⟨.connecting, []⟩)).Sound := by
  refine hs.of_same ⟨rfl, rfl, rfl, rfl⟩ (rsts_setDtls_same ?_)
  rw [rsts, hconn]
  rfl

theorem Sound.setState (hs : s.Sound) (hconn : s.dtls conn = some dtls) (state : SslState) :
    (s.setDtls conn (some { dtls with state := state })).Sound :=
  hs.of_same ⟨rfl, rfl, rfl, rfl⟩ (rsts_setDtls_same (rsts_of_some hconn).symm)

theorem Sound.send (hs : s.Sound) (hconn : s.dtls conn = some dtls) :
    (s.setDtls conn (dtls.asyncSendData .other).2).Sound := by
  refine hs.of_same ⟨rfl, rfl, rfl, rfl⟩ (rsts_setDtls_same ?_)
  rw [Option.elim_some, rsts_of_some hconn]
  unfold SrvSends.asyncSendData
  split_ifs
  · rfl
  · rw [List.count_append]
    rfl

theorem Sound.startSend (hs : s.Sound) (hconn : s.dtls conn = some dtls) {next : SrvSendCtx}
    {others : List SrvSendCtx} (hlist : dtls.sendList = next :: others) :
    ((s.setDtls conn (some { dtls with sendList := others })).sendCb next).Sound := by
  have hrsts := rsts_of_some hconn
  rw [hlist] at hrsts
  cases next with
  | rst =>
    rw [List.count_cons_self] at hrsts
    have hone := hs.le_one conn
    have hothers : others.count .rst = 0 := by omega
    have hone' : s.rsts conn = 1 := by omega
    refine hs.callback hone' ⟨rfl, rfl, rfl, rfl⟩ ?_
    rw [rsts_setDtls, Option.elim_some, hothers]
  | other =>
    rw [List.count_cons_of_ne (by decide)] at hrsts
    exact hs.of_same ⟨rfl, rfl, rfl, rfl⟩ (rsts_setDtls_same hrsts.symm)

/-- A reset that is accepted is the only one. -/
theorem Sound.sendRst (hs : s.Sound) {manager : NcStreamManager} (hfree : s.manager.rstBuf = false)
    (hbuf : manager.rstBuf = true) (hconn : s.dtls conn = some dtls)
    (hopen : dtls.state ≠ .closing) : ({ s with manager := manager }.sendRst conn dtls).Sound := by
  have hzero : ∀ c, s.rsts c = 0 := by
    intro c
    by_contra hc
    have hyes := hs.outstanding.mpr ⟨c, Nat.pos_of_ne_zero hc⟩
    rw [hfree] at hyes
    cases hyes
  have hcount : dtls.sendList.count .rst = 0 := (rsts_of_some hconn).symm.trans (hzero conn)
  have hnone : s.buffer = none := by
    rw [← Option.not_isSome_iff_eq_none, ← hs.rstBuf_eq, hfree]
    exact Bool.false_ne_true
  have hfreed : s.freed ++ [some s.allocated] = (List.range (s.allocated + 1)).map some := by
    have hall := hs.freed
    rw [hnone, Option.toList_none, List.map_nil, List.append_nil] at hall
    rw [hall, List.range_succ, List.map_append, List.map_singleton]
  have hrsts : ({ s with manager := manager }.sendRst conn dtls).rsts =
      Function.update s.rsts conn 1 := by
    refine (rsts_setDtls ..).trans ?_
    rw [SrvSends.asyncSendData, if_neg hopen, Option.elim_some, List.count_append, hcount]
    rfl
  have hother : ∀ c, 0 < ({ s with manager := manager }.sendRst conn dtls).rsts c → c = conn := by
    intro c hc
    by_contra hne
    rw [hrsts, Function.update_of_ne hne, hzero c] at hc
    cases hc
  refine ⟨hbuf, iff_of_true hbuf ⟨conn, ?_⟩, fun c => ?_, fun c c' hc hc' => ?_, hfreed⟩
  · rw [hrsts, Function.update_self]
    exact Nat.one_pos
  · rw [hrsts, Function.update_apply]
    split_ifs
    · exact le_rfl
    · exact (hzero c).symm ▸ Nat.zero_le 1
  · rw [hother c hc, hother c' hc']

theorem Sound.handlePacket (hs : s.Sound) (hconn : s.dtls conn = some dtls)
    (hopen : dtls.state ≠ .closing) (connectionRef : ℕ) (packet : StreamPacket) :
    (s.handlePacket flags conn connectionRef packet dtls).Sound := by
  cases hold : s.manager.rstBuf with
  | true =>
    have hnew :
        (ncStreamManagerHandlePacket flags s.manager conn connectionRef packet).rstBuf = true :=
      rstBuf_handlePacket hold conn connectionRef packet
    simp only [StreamResets.handlePacket, hold, hnew, Bool.not_true, Bool.and_false]
    exact hs.of_same ⟨hnew.trans hold.symm, rfl, rfl, rfl⟩ rfl
  | false =>
    cases hnew : (ncStreamManagerHandlePacket flags s.manager conn connectionRef packet).rstBuf with
    | true =>
      simp only [StreamResets.handlePacket, hold, hnew, Bool.not_false, Bool.and_true]
      exact hs.sendRst hold hnew hconn hopen
    | false =>
      simp only [StreamResets.handlePacket, hold, hnew, Bool.not_false, Bool.false_and]
      exact hs.of_same ⟨hnew.trans hold.symm, rfl, rfl, rfl⟩ rfl

theorem Sound.destroyConnection (hs : s.Sound) (hconn : s.dtls conn = some dtls)
    (answers : ℕ → List NabtoStreamNextEvent) :
    (dtls.sendList.foldl sendCb ({ s with
      manager := ncStreamManagerRemoveConnection s.manager conn answers }.setDtls
        conn none)).Sound := by
  have hsame : SameBuffer s ({ s with
      manager := ncStreamManagerRemoveConnection s.manager conn answers }.setDtls conn none) :=
    ⟨rstBuf_removeConnection .., rfl, rfl, rfl⟩
  have hrsts := rsts_of_some hconn
  have hone := hs.le_one conn
  rcases Nat.eq_zero_or_pos (dtls.sendList.count .rst) with hzero | hpos
  · rw [foldl_sendCb_of_zero hzero]
    exact hs.of_same hsame (rsts_setDtls_same (hrsts.trans hzero).symm)
  · have hcount : dtls.sendList.count .rst = 1 := by omega
    rw [foldl_sendCb_of_one hcount]
    exact hs.callback (hrsts.trans hcount) hsame (rsts_setDtls ..)

theorem sound_step {e : StreamResetEvent} (hs : s.Sound) (hstep : s.step flags e = some s') :
    s'.Sound := by
  cases e with
  | manager event =>
    obtain ⟨manager, rfl, hbuf⟩ := rstBuf_managerStep hstep
    exact hs.of_same ⟨hbuf, rfl, rfl, rfl⟩ rfl
  | createConnection conn =>
    cases hconn : s.dtls conn with
    | some dtls => simp only [step, hconn, reduceCtorEq] at hstep
    | none =>
      simp only [step, hconn, Option.some.injEq] at hstep
      exact hstep ▸ hs.createConnection hconn
  | setState conn state =>
    cases hconn : s.dtls conn with
    | none => simp only [step, hconn, reduceCtorEq] at hstep
    | some dtls =>
      simp only [step, hconn] at hstep
      obtain ⟨-, rfl⟩ := Machine.of_guard_not hstep
      exact hs.setState hconn state
  | send conn =>
    cases hconn : s.dtls conn with
    | none => simp only [step, hconn, reduceCtorEq] at hstep
    | some dtls =>
      simp only [step, hconn, Option.some.injEq] at hstep
      exact hstep ▸ hs.send hconn
  | startSend conn =>
    cases hconn : s.dtls conn with
    | none => simp only [step, hconn, reduceCtorEq] at hstep
    | some dtls =>
      cases hlist : dtls.sendList with
      | nil => simp only [step, hconn, hlist, reduceCtorEq] at hstep
      | cons next others =>
        simp only [step, hconn, hlist, Option.some.injEq] at hstep
        exact hstep ▸ hs.startSend hconn hlist
  | packet conn connectionRef packet =>
    cases hconn : s.dtls conn with
    | none => simp only [step, hconn, reduceCtorEq] at hstep
    | some dtls =>
      simp only [step, hconn] at hstep
      split_ifs at hstep with hdata
      · have hopen : dtls.state ≠ .closing := by simp [hdata]
        exact Option.some.inj hstep ▸ hs.handlePacket hconn hopen connectionRef packet
      · exact Option.some.inj hstep ▸ hs
  | destroyConnection conn answers =>
    cases hconn : s.dtls conn with
    | none => simp only [step, hconn, reduceCtorEq] at hstep
    | some dtls =>
      simp only [step, hconn, Option.some.injEq] at hstep
      exact hstep ▸ hs.destroyConnection hconn answers

theorem sound_init (maxStreams : ℕ) : (init maxStreams).Sound :=
  ⟨rfl, iff_of_false Bool.false_ne_true (fun ⟨_, hc⟩ => absurd hc (Nat.lt_irrefl 0)),
    fun _ => Nat.zero_le 1, fun _ _ hpos => absurd hpos (Nat.lt_irrefl 0), rfl⟩

end StreamResets

/-- In every run on any connections, with packets on those that are closing too, there is a reset
buffer exactly while a reset that the DTLS layer accepted is outstanding, there is at most one, and
each buffer is freed once. -/
theorem streamResets_sound (flags : NabtoStreamFlags) (maxStreams : ℕ) {run : List StreamResetEvent}
    {s : StreamResets} (hr : (streamResets flags maxStreams).Run run s) : s.Sound :=
  hr.invariant StreamResets.Sound (StreamResets.sound_init maxStreams) fun _ _ _ =>
    StreamResets.sound_step

/-- Resets on two connections, one sent and one dropped with its connection, while another packet
waits in the list. A packet of an unknown stream that comes when the second connection closes is not
answered, and one on the next connection is. -/
theorem streamResets_sound_two :
    ∃ run s, (streamResets ⟨2, 4⟩ 10).Run run s ∧ s.freed = [some 0, some 1] ∧ s.allocated = 3 ∧
      s.manager.rstBuf = true ∧ s.Sound := by
  have hr : (streamResets ⟨2, 4⟩ 10).Run
      [.createConnection 7, .setState 7 .data, .send 7,
        .packet 7 1 ⟨[5, 3, 1, 0], 0, true, true, []⟩,
        .packet 7 1 ⟨[5, 5, 1, 0], 0, true, true, []⟩, .startSend 7, .startSend 7,
        .createConnection 8, .setState 8 .data, .packet 8 2 ⟨[5, 3, 1, 0], 0, true, true, []⟩,
        .setState 8 .closing, .destroyConnection 8 fun _ => [], .setState 7 .closing,
        .packet 7 1 ⟨[5, 7, 1, 0], 0, true, true, []⟩, .createConnection 8, .setState 8 .data,
        .packet 8 3 ⟨[5, 3, 1, 0], 0, true, true, []⟩] _ := Machine.run_of_exec rfl
  exact ⟨_, _, hr, by decide +kernel, by decide +kernel, by decide +kernel,
    streamResets_sound ⟨2, 4⟩ 10 hr⟩

end NabtoDevice
