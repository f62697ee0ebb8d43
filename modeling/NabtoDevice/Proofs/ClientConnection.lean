import NabtoDevice.Sanity.ClientConnection

/-! `sentCb` of a client connection and its outstanding UDP send belong together: the
callback is cleared only when that send completes. The one place where they part is a
queued packet whose channel has been replaced by the time it is sent, and a run keeps
them together exactly if no such packet is taken from the queue. -/

namespace NabtoDevice

structure SendView where
  sentCb : Bool
  udpSends : List NcConnectionChannel
  sending : Bool
  channelId : UInt8
  state : SslState
  deferredEvent : NpDtlsSrvEvent
  deferredEventEvent : Bool

def NcClientConnection.sendView (conn : NcClientConnection) : SendView :=
  ⟨conn.sentCb, conn.udpSends, conn.dtls.sending, conn.dtls.channelId, conn.dtls.state,
    conn.dtls.deferredEvent, conn.dtls.deferredEventEvent⟩

/-- `sentCb` is set exactly while one UDP send of the connection is outstanding. -/
def SentCbMatchesUdp (conn : NcClientConnection) : Prop :=
  conn.udpSends.length = if conn.sentCb then 1 else 0

/-- DTLS waits for the same send as the connection, and a posted CLOSED event means that
the DTLS connection is closing. -/
structure SendView.Balanced (v : SendView) : Prop where
  sending : v.sending = v.sentCb
  outstanding : v.udpSends.length = if v.sentCb then 1 else 0
  closing : v.deferredEventEvent = true → v.deferredEvent = .closed → v.state = .closing

structure Settled (conn : NcClientConnection) : Prop where
  balanced : conn.sendView.Balanced
  default : conn.dtls.channelId = npDtlsSrvDefaultChannelId

/-- At most one UDP send is outstanding, and only while DTLS waits for it. A view is `full` if
one is outstanding all that time. -/
structure SendView.Counted (full : Prop) (v : SendView) : Prop where
  sending : v.sending = v.sentCb
  outstanding : v.udpSends.length ≤ if v.sentCb then 1 else 0
  submitted : full → v.sentCb = true → v.udpSends ≠ []
  closing : v.deferredEventEvent = true → v.deferredEvent = .closed → v.state = .closing

structure Rests (full : Prop) (conn : NcClientConnection) : Prop where
  counted : conn.sendView.Counted full
  default : full → conn.dtls.channelId = npDtlsSrvDefaultChannelId

theorem SendView.Counted.idle {full : Prop} {v : SendView} (h : v.Counted full)
    (hsending : v.sending = false) : v.udpSends = [] := by
  have hout := h.outstanding
  rw [← h.sending, hsending] at hout
  exact List.length_eq_zero_iff.mp (Nat.le_zero.mp hout)

theorem rests_iff_settled {conn : NcClientConnection} : Rests True conn ↔ Settled conn := by
  constructor
  · intro h
    refine ⟨⟨h.counted.sending, ?_, h.counted.closing⟩, h.default trivial⟩
    have hout := h.counted.outstanding
    cases hcb : conn.sendView.sentCb with
    | false => simpa [hcb] using hout
    | true =>
      have hsome := List.length_pos_iff.mpr (h.counted.submitted trivial hcb)
      rw [hcb] at hout
      exact Nat.le_antisymm hout hsome
  · intro h
    refine ⟨⟨h.balanced.sending, h.balanced.outstanding.le, fun _ hcb hnone => ?_,
      h.balanced.closing⟩,
      fun _ => h.default⟩
    have hout := h.balanced.outstanding
    simp [hcb, hnone] at hout

variable {full : Prop} {conn : NcClientConnection}

theorem Rests.of_view {conn' : NcClientConnection} (h : Rests full conn)
    (hview : conn'.sendView = conn.sendView) : Rests full conn' :=
  ⟨hview ▸ h.counted, fun hfull => (congrArg SendView.channelId hview).trans (h.default hfull)⟩

theorem asyncSendData_view (conn : NcClientConnection) (sendCtx : NpDtlsSrvSendContext) :
    (nmMbedtlsSrvAsyncSendData conn sendCtx).sendView = conn.sendView := by
  unfold nmMbedtlsSrvAsyncSendData
  split_ifs <;> rfl

theorem handleData_view (conn : NcClientConnection) (channelId : UInt8) (sequence : UInt64)
    (buffer : List UInt8) :
    (ncClientConnectionHandleData conn channelId sequence buffer).sendView = conn.sendView := by
  unfold ncClientConnectionHandleData
  split_ifs
  · unfold ncClientConnectionHandleKeepAlive ncClientConnectionKeepAliveSendResponse
    split_ifs
    · split
      · rfl
      · exact asyncSendData_view _ _
    · rfl
  · dsimp only
    split_ifs <;> rfl
  · rfl

variable (env : SrvEnv)

/-- What one call into mbedtls does to the sending: nothing, or it starts the send that
`channelFor` finds a channel for. -/
theorem mbedtlsSends_cases (conn : NcClientConnection) (env : SrvEnv)
    (h : conn.dtls.sending = conn.sentCb) :
    (mbedtlsSends conn env = conn ∧ (env.sends = false ∨ conn.sentCb = true)) ∨
    (env.sends = true ∧ conn.sentCb = false ∧
      mbedtlsSends conn env = { conn with
        sentCb := true
        udpSends := conn.udpSends ++ (conn.channelFor conn.dtls.channelId).toList
        dtls := { conn.dtls with sending := true } }) := by
  unfold mbedtlsSends nmMbedtlsSrvMbedtlsSend ncClientConnectionAsyncSendToUdp
  cases hsends : env.sends with
  | false => exact .inl ⟨rfl, .inl rfl⟩
  | true =>
    cases hcb : conn.sentCb with
    | true => exact .inl ⟨by simp [h, hcb], .inr rfl⟩
    | false => exact .inr ⟨rfl, rfl, by simp [h, hcb, NcClientConnection.channelFor]⟩

theorem mbedtlsSends_counted (h : conn.sendView.Counted full)
    (hchannel : full → (conn.channelFor conn.dtls.channelId).isSome) :
    (mbedtlsSends conn env).sendView.Counted full := by
  rcases mbedtlsSends_cases conn env h.sending with ⟨heq, -⟩ | ⟨-, hcb, heq⟩
  · rw [heq]
    exact h
  · rw [heq]
    have hnone : conn.udpSends = [] := h.idle (h.sending.trans hcb)
    refine ⟨rfl, ?_, fun hfull _ => ?_, h.closing⟩
    · simp only [NcClientConnection.sendView, hnone, List.nil_append, if_true]
      cases conn.channelFor conn.dtls.channelId <;> simp
    · obtain ⟨channel, hchannel⟩ := Option.isSome_iff_exists.mp (hchannel hfull)
      simp [NcClientConnection.sendView, hchannel]

theorem doOne_counted (h : conn.sendView.Counted full)
    (hchannel : full → (conn.channelFor conn.dtls.channelId).isSome) :
    (nmMbedtlsSrvDoOne conn env).sendView.Counted full ∧
      (nmMbedtlsSrvDoOne conn env).dtls.channelId = conn.dtls.channelId := by
  have hsends := mbedtlsSends_counted env h hchannel
  obtain ⟨-, -, hid, -⟩ := mbedtlsSends_only conn env
  unfold nmMbedtlsSrvDoOne
  cases hs : conn.dtls.state with
  | connecting =>
    cases env.handshake with
    | wantReadWrite => exact ⟨hsends, hid⟩
    | done => exact ⟨⟨hsends.sending, hsends.outstanding, hsends.submitted, fun _ => nofun⟩, hid⟩
    | timeout | error =>
      exact ⟨⟨hsends.sending, hsends.outstanding, hsends.submitted, fun _ _ => rfl⟩, hid⟩
  | data =>
    cases env.read with
    | data sequence buffer =>
      have hview := handleData_view { mbedtlsSends conn env with
        dtls := { (mbedtlsSends conn env).dtls with
          recvCount := (mbedtlsSends conn env).dtls.recvCount + 1 } }
        (mbedtlsSends conn env).dtls.currentChannelId sequence buffer
      refine ⟨?_, (congrArg SendView.channelId hview).trans hid⟩
      dsimp only
      rw [hview]
      exact ⟨hsends.sending, hsends.outstanding, hsends.submitted, hsends.closing⟩
    | wantReadWrite => exact ⟨hsends, hid⟩
    | eof | closeNotify | error =>
      exact ⟨⟨hsends.sending, hsends.outstanding, hsends.submitted, fun _ _ => rfl⟩, hid⟩
  | closing => exact ⟨h, rfl⟩

theorem channelFor_default (conn : NcClientConnection) :
    (conn.channelFor npDtlsSrvDefaultChannelId).isSome := by
  simp [NcClientConnection.channelFor]

theorem Rests.channelFor (h : Rests full conn) (hfull : full) :
    (conn.channelFor conn.dtls.channelId).isSome := by
  rw [h.default hfull]
  exact channelFor_default conn

theorem doOne_rests (h : Rests full conn) : Rests full (nmMbedtlsSrvDoOne conn env) := by
  obtain ⟨hcounted, hid⟩ := doOne_counted env h.counted h.channelFor
  exact ⟨hcounted, fun hfull => hid.trans (h.default hfull)⟩

theorem srvHandlePacket_rests {channelId : UInt8} (h : conn.sendView.Counted full)
    (hchannel : full → (conn.channelFor channelId).isSome) :
    Rests full (nmMbedtlsSrvHandlePacket conn channelId env) := by
  have hon : NcClientConnection.sendView { conn with
      dtls := { conn.dtls with
        currentChannelId := channelId, channelId := channelId } } |>.Counted full :=
    ⟨h.sending, h.outstanding, h.submitted, h.closing⟩
  obtain ⟨hone, -⟩ := doOne_counted env hon hchannel
  exact ⟨⟨hone.sending, hone.outstanding, hone.submitted, hone.closing⟩, fun _ => rfl⟩

/-- The channel of a packet is the current or the alternative one when it is handled. -/
theorem seenOn_channelFor (conn : NcClientConnection) (channelId : UInt8) (sock ep : ℕ) :
    ((conn.seenOn channelId sock ep).channelFor channelId).isSome := by
  unfold NcClientConnection.seenOn
  split_ifs with h
  · unfold NcClientConnection.channelFor
    split_ifs
    · rfl
    · rfl
    · contradiction
  · rw [not_not] at h
    simp [NcClientConnection.channelFor, h]

theorem handlePacket_rests (sock ep : ℕ) (buffer : List UInt8) (env : SrvEnv)
    (h : Rests full conn) :
    Rests full (ncClientConnectionHandlePacket conn sock ep buffer env) := by
  unfold ncClientConnectionHandlePacket
  split_ifs
  · exact h
  · refine srvHandlePacket_rests env ?_ fun _ => seenOn_channelFor conn _ sock ep
    unfold NcClientConnection.seenOn
    split_ifs <;> exact h.counted

theorem open_rests (id : List UInt8) (sock ep : ℕ) (env : SrvEnv) :
    Rests full (ncClientConnectionOpen id sock ep env) := by
  refine srvHandlePacket_rests env ⟨rfl, le_rfl, fun _ => nofun, nofun⟩ fun _ => ?_
  simp [NcClientConnection.channelFor]

theorem asyncClose_rests (h : Rests full conn) : Rests full (nmMbedtlsSrvAsyncClose conn env) := by
  unfold nmMbedtlsSrvAsyncClose
  split_ifs
  · exact h
  · have hclosing : (conn.setState .closing).sendView.Counted full :=
      ⟨h.counted.sending, h.counted.outstanding, h.counted.submitted, fun _ _ => rfl⟩
    have hsends := mbedtlsSends_counted env hclosing h.channelFor
    obtain ⟨-, hstate, hid, -⟩ := mbedtlsSends_only (conn.setState .closing) env
    exact ⟨⟨hsends.sending, hsends.outstanding, hsends.submitted, fun _ _ => hstate⟩,
      fun hfull => hid.trans (h.default hfull)⟩

theorem sendToUdpCb_rests (ok : Bool) (env : SrvEnv) (h : Rests full conn)
    {channel : NcConnectionChannel}
    {rest : List NcConnectionChannel} (hudp : conn.udpSends = channel :: rest) :
    Rests full (ncClientConnectionSendToUdpCb { conn with udpSends := rest } ok env) := by
  have hout := h.counted.outstanding
  simp only [NcClientConnection.sendView, hudp, List.length_cons] at hout
  have hcb : conn.sentCb = true := by
    by_contra hcb
    simp [hcb] at hout
  have hrest : rest = [] := by
    rw [if_pos hcb] at hout
    exact List.length_eq_zero_iff.mp (by omega)
  subst hrest
  have hdone : Rests full { conn with
      udpSends := [], sentCb := false, dtls := { conn.dtls with sending := false } } :=
    ⟨⟨rfl, le_rfl, fun _ => nofun, h.counted.closing⟩, h.default⟩
  unfold ncClientConnectionSendToUdpCb nmMbedtlsSrvConnectionSendCallback
  simp only [hcb, Bool.not_true, Bool.false_eq_true, if_false]
  split_ifs
  · exact hdone
  · exact hdone
  · exact (doOne_rests env hdone).of_view rfl

theorem destroy_rests (h : Rests full conn) (hsending : conn.dtls.sending = false) :
    Rests full (ncClientConnectionDestroyConnection conn) := by
  refine ⟨⟨hsending, ?_, fun _ => nofun, h.counted.closing⟩, h.default⟩
  have hnone : conn.udpSends = [] := h.counted.idle hsending
  simp [NcClientConnection.sendView, ncClientConnectionDestroyConnection, hnone]

theorem doEventCallback_rests (h : Rests full conn)
    (hposted : conn.dtls.deferredEventEvent = true) :
    Rests full (nmMbedtlsSrvDoEventCallback conn env) := by
  unfold nmMbedtlsSrvDoEventCallback
  split_ifs with hwait
  · exact h
  · have hfired : Rests full { conn with dtls := { conn.dtls with deferredEventEvent := false } } :=
      ⟨⟨h.counted.sending, h.counted.outstanding, h.counted.submitted, nofun⟩, h.default⟩
    unfold ncClientConnectionHandleEvent
    split
    · rename_i hevent
      refine destroy_rests hfired ?_
      -- a CLOSED event is held back while DTLS is sending
      have hclosing := h.counted.closing hposted hevent
      simpa using fun hs => hwait ⟨hclosing, hs⟩
    · split_ifs
      · exact hfired.of_view rfl
      · exact asyncClose_rests env hfired

theorem eventClose_rests (h : Rests full conn) : Rests full (nmMbedtlsSrvEventClose conn) := by
  unfold nmMbedtlsSrvEventClose
  split_ifs with hsending
  · exact h
  · have hcancelled : Rests full { conn with dtls := { conn.dtls with
        closeEv := false, startSendEvent := false, deferredEventEvent := false,
          closeCb := false } } :=
      ⟨⟨h.counted.sending, h.counted.outstanding, h.counted.submitted, nofun⟩, h.default⟩
    dsimp only
    split_ifs
    · exact destroy_rests hcancelled (by simpa using hsending)
    · exact hcancelled

theorem keepAliveEvent_rests (h : Rests full conn) :
    Rests full (ncClientConnectionKeepAliveEvent conn env) := by
  unfold ncClientConnectionKeepAliveEvent
  generalize ncKeepAliveShouldSend conn.keepAlive conn.dtls.recvCount conn.dtls.sentCount = decision
  obtain ⟨keepAlive, action⟩ := decision
  cases action with
  | doNothing => exact h.of_view rfl
  | sendKa => exact h.of_view (asyncSendData_view _ _)
  | kaTimeout => exact asyncClose_rests env (h.of_view rfl)

/-- A packet is taken from the send queue whose channel is neither the default nor one
of the two the connection knows. -/
def strandsSend (conn : NcClientConnection) : ClientConnectionEvent → Bool
  | .startSend env =>
    !conn.dtls.sending && env.sends &&
      conn.dtls.sendList.head?.any fun next => (conn.channelFor next.channelId).isNone
  | _ => false

theorem startSend_rests (h : Rests full conn)
    (hkept : full → strandsSend conn (.startSend env) = false) :
    Rests full (nmMbedtlsSrvStartSendDeferred conn env) := by
  unfold nmMbedtlsSrvStartSendDeferred
  split_ifs with hsending
  · exact h
  · cases hlist : conn.dtls.sendList with
    | nil => exact h
    | cons next rest =>
      have htaken : (conn.takeSend next rest).sendView.Counted full :=
        ⟨h.counted.sending, h.counted.outstanding, h.counted.submitted, h.counted.closing⟩
      have hsent : (mbedtlsSends (conn.takeSend next rest) env).sendView.Counted full := by
        cases hsends : env.sends with
        | false => simpa [mbedtlsSends, hsends] using htaken
        | true =>
          refine mbedtlsSends_counted env htaken fun hfull => ?_
          have : (conn.channelFor next.channelId).isNone = false := by
            simpa [strandsSend, hsending, hsends, hlist] using hkept hfull
          exact Option.isNone_eq_false_iff.mp this
      exact ⟨⟨hsent.sending, hsent.outstanding, hsent.submitted, hsent.closing⟩, fun _ => rfl⟩

theorem clientConnectionStep_rests {conn' : NcClientConnection} {e : ClientConnectionEvent}
    (h : Rests full conn)
    (hs : clientConnectionStep conn e = some conn') (hkept : full → strandsSend conn e = false) :
    Rests full conn' := by
  cases clientConnectionCase_of_step hs with
  | packet sock ep buffer env => exact handlePacket_rests sock ep buffer env h
  | timer env => exact doOne_rests env h
  | startSend env =>
    have hfired : Rests full conn.startSendFired := h.of_view rfl
    exact startSend_rests env hfired hkept
  | deferredEvent env hposted => exact doEventCallback_rests env h hposted
  | closeEvent => exact eventClose_rests h
  | close env => exact asyncClose_rests env h
  | keepAliveEvent env => exact keepAliveEvent_rests env h
  | sendData => exact h.of_view (asyncSendData_view _ _)
  | udpDone ok env hsends => exact sendToUdpCb_rests ok env h hsends

/-- What is lost: the callback is set and no UDP send was submitted. -/
theorem startSend_stranded (h : Settled conn) (hlost : strandsSend conn (.startSend env) = true) :
    ¬ SentCbMatchesUdp (nmMbedtlsSrvStartSendDeferred conn env) := by
  simp only [strandsSend, Bool.and_eq_true, Bool.not_eq_true'] at hlost
  obtain ⟨⟨hsending, hsends⟩, hnext⟩ := hlost
  have hcb : conn.sentCb = false := h.balanced.sending.symm.trans hsending
  have hnone : conn.udpSends = [] := by
    have := h.balanced.outstanding
    simpa [NcClientConnection.sendView, hcb] using this
  cases hlist : conn.dtls.sendList with
  | nil => simp [hlist] at hnext
  | cons next rest =>
    have hchannel : conn.channelFor next.channelId = none := by simpa [hlist] using hnext
    have hunsent : (conn.takeSend next rest).channelFor next.channelId = none := hchannel
    simp only [nmMbedtlsSrvStartSendDeferred, hsending, Bool.false_eq_true, if_false, hlist]
    rcases mbedtlsSends_cases (conn.takeSend next rest) env h.balanced.sending with
      ⟨-, hor | hor⟩ | ⟨-, -, heq⟩
    · exact absurd (hor.symm.trans hsends) nofun
    · exact absurd (hor.symm.trans hcb) nofun
    · rw [heq]
      intro hmatch
      have hlen : (conn.udpSends ++ ((conn.takeSend next rest).channelFor
          next.channelId).toList).length = 1 := hmatch
      simp [hunsent, hnone] at hlen

theorem clientConnectionStep_iff {conn' : NcClientConnection} {e : ClientConnectionEvent}
    (h : Settled conn) (hs : clientConnectionStep conn e = some conn') :
    (SentCbMatchesUdp conn' ↔ strandsSend conn e = false) ∧
      (strandsSend conn e = false → Settled conn') := by
  have hkeeps (hkept : strandsSend conn e = false) : Settled conn' :=
    rests_iff_settled.mp (clientConnectionStep_rests (rests_iff_settled.mpr h) hs fun _ => hkept)
  refine ⟨⟨fun hmatch => ?_, fun hkept => (hkeeps hkept).balanced.outstanding⟩, hkeeps⟩
  by_contra hstrands
  rw [Bool.not_eq_false] at hstrands
  cases clientConnectionCase_of_step hs with
  | startSend env =>
    have hfired : Settled conn.startSendFired := ⟨h.balanced, h.default⟩
    exact startSend_stranded env hfired hstrands hmatch
  | packet | timer | deferredEvent | closeEvent | close | keepAliveEvent | sendData | udpDone =>
    cases hstrands

/-- Over every run of a connection `sentCb` is set exactly while a UDP send is outstanding,
if and only if no queued packet is sent on a channel that is no longer known. -/
theorem sent_cb_matches_udp_iff (id : List UInt8) (sock ep : ℕ) (env : SrvEnv)
    {evs : List ClientConnectionEvent} {s : NcClientConnection}
    (h : (clientConnection id sock ep env).Run evs s) :
    (∀ t, (clientConnection id sock ep env).Visits evs t → SentCbMatchesUdp t) ↔
      ∀ t e, (clientConnection id sock ep env).Takes evs t e → strandsSend t e = false := by
  have hopen := rests_iff_settled.mp (open_rests id sock ep env)
  have hmatch : SentCbMatchesUdp (ncClientConnectionOpen id sock ep env) :=
    hopen.balanced.outstanding
  exact h.good_iff_takes Settled SentCbMatchesUdp (fun t e => strandsSend t e = false) hopen
    hmatch fun t e t' hinv _ hs => clientConnectionStep_iff hinv hs

def connectedRun : List ClientConnectionEvent :=
  [.packet 0 0 (List.replicate 15 240 ++ [1]) { handshake := .done }, .deferredEvent {}]

/-- A client that moves from channel 1 to channel 2: its keep alive request on the new
channel is answered there before anything else arrives. -/
def roamingRun : List ClientConnectionEvent :=
  connectedRun ++
    [.packet 0 5 (List.replicate 15 240 ++ [2]) { read := .data 1 (4 :: 3 :: List.replicate 16 0) },
     .startSend { sends := true }, .udpDone true {},
     .packet 0 5 (List.replicate 15 240 ++ [2]) { read := .data 2 [64] },
     .sendData, .startSend { sends := true }]

theorem sent_cb_matches_udp_roaming :
    (∃ s, (clientConnection (List.replicate 15 240 ++ [1]) 0 0 {}).Run roamingRun s ∧
      s.udpSends = [⟨0, 5, 2⟩]) ∧
    ∀ t, (clientConnection (List.replicate 15 240 ++ [1]) 0 0 {}).Visits roamingRun t →
      SentCbMatchesUdp t := by
  have hrun : ∃ s, (clientConnection (List.replicate 15 240 ++ [1]) 0 0 {}).Run roamingRun s ∧
      s.udpSends = [⟨0, 5, 2⟩] := ⟨_, Machine.run_of_exec rfl, by decide +kernel⟩
  refine ⟨hrun, ?_⟩
  obtain ⟨s, hs, -⟩ := hrun
  rw [sent_cb_matches_udp_iff (List.replicate 15 240 ++ [1]) 0 0 {} hs]
  intro t e ht
  have hall : (clientConnection (List.replicate 15 240 ++ [1]) 0 0 {}).allTaken
      (fun t e => !strandsSend t e) (clientConnection (List.replicate 15 240 ++ [1]) 0 0 {}).init
      roamingRun = true := by decide +kernel
  exact Machine.takes_eq_false_of_allTaken hall ht

/-- While data is being sent a keep alive request comes on channel 2 and another packet on
channel 3. The answer for channel 2 is sent nowhere, and no completion will ever clear
`sentCb`. -/
theorem keep_alive_response_stranded :
    ∃ s, (clientConnection (List.replicate 15 240 ++ [1]) 0 0 {}).Run
        (connectedRun ++
          [.sendData, .startSend { sends := true },
           .packet 0 5 (List.replicate 15 240 ++ [2])
             { read := .data 1 (4 :: 3 :: List.replicate 16 0) },
           .startSend {}, .packet 0 6 (List.replicate 15 240 ++ [3]) {}, .udpDone true {},
           .startSend { sends := true }]) s ∧
      s.sentCb = true ∧ s.udpSends = [] ∧ ¬ SentCbMatchesUdp s :=
  ⟨_, Machine.run_of_exec rfl, by decide +kernel, by decide +kernel, by
    unfold SentCbMatchesUdp
    decide +kernel⟩

end NabtoDevice
