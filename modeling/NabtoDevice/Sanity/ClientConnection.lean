import NabtoDevice.Spec.ClientConnection

/-! The send list of a client connection only grows at its end, except that
`nm_mbedtls_srv_start_send_deferred` takes its first send context. -/

namespace NabtoDevice

/-- What each event makes the connection do, with the guard of the step. -/
inductive ClientConnectionCase (conn : NcClientConnection) :
    ClientConnectionEvent → NcClientConnection → Prop
  | packet (sock ep : ℕ) (buffer : List UInt8) (env : SrvEnv) :
      ClientConnectionCase conn (.packet sock ep buffer env)
        (ncClientConnectionHandlePacket conn sock ep buffer env)
  | timer (env : SrvEnv) : ClientConnectionCase conn (.timer env) (nmMbedtlsSrvDoOne conn env)
  | startSend (env : SrvEnv) :
      ClientConnectionCase conn (.startSend env)
        (nmMbedtlsSrvStartSendDeferred conn.startSendFired env)
  | deferredEvent (env : SrvEnv) (hposted : conn.dtls.deferredEventEvent = true) :
      ClientConnectionCase conn (.deferredEvent env) (nmMbedtlsSrvDoEventCallback conn env)
  | closeEvent : ClientConnectionCase conn .closeEvent (nmMbedtlsSrvEventClose conn)
  | close (env : SrvEnv) : ClientConnectionCase conn (.close env) (nmMbedtlsSrvAsyncClose conn env)
  | keepAliveEvent (env : SrvEnv) :
      ClientConnectionCase conn (.keepAliveEvent env) (ncClientConnectionKeepAliveEvent conn env)
  | sendData : ClientConnectionCase conn .sendData
      (nmMbedtlsSrvAsyncSendData conn ⟨false, npDtlsSrvDefaultChannelId⟩)
  | udpDone {channel : NcConnectionChannel} {rest : List NcConnectionChannel} (ok : Bool)
      (env : SrvEnv)
      (hsends : conn.udpSends = channel :: rest) : ClientConnectionCase conn (.udpDone ok env)
      (ncClientConnectionSendToUdpCb { conn with udpSends := rest } ok env)

variable {e : ClientConnectionEvent}

theorem clientConnectionCase_of_step {conn conn' : NcClientConnection}
    (hs : clientConnectionStep conn e = some conn') : ClientConnectionCase conn e conn' := by
  obtain ⟨-, hs⟩ := Option.ite_none_left_eq_some.mp hs
  cases e with
  | packet sock ep buffer env =>
    obtain ⟨-, rfl⟩ := Machine.of_guard_not hs
    exact .packet sock ep buffer env
  | timer env => exact Option.some.inj hs ▸ .timer env
  | startSend env =>
    obtain ⟨-, rfl⟩ := Machine.of_guard hs
    exact .startSend env
  | deferredEvent env =>
    obtain ⟨hposted, rfl⟩ := Machine.of_guard hs
    exact .deferredEvent env hposted
  | closeEvent =>
    obtain ⟨-, rfl⟩ := Machine.of_guard hs
    exact .closeEvent
  | close env => exact Option.some.inj hs ▸ .close env
  | keepAliveEvent env =>
    obtain ⟨-, rfl⟩ := Machine.of_guard hs
    exact .keepAliveEvent env
  | sendData => exact Option.some.inj hs ▸ .sendData
  | udpDone ok env =>
    cases hsends : conn.udpSends with
    | nil => simp [hsends] at hs
    | cons channel rest =>
      rw [hsends] at hs
      exact Option.some.inj hs ▸ .udpDone ok env hsends

/-- A call that neither takes a send context from the list nor destroys the connection. -/
structure Appends (conn conn' : NcClientConnection) : Prop where
  sendList : conn.dtls.sendList <+: conn'.dtls.sendList
  destroyed : conn'.destroyed = conn.destroyed

theorem Appends.same {conn conn' : NcClientConnection}
    (hlist : conn'.dtls.sendList = conn.dtls.sendList)
    (hdestroyed : conn'.destroyed = conn.destroyed) : Appends conn conn' :=
  ⟨by rw [hlist], hdestroyed⟩

theorem Appends.trans {a b c : NcClientConnection} (h : Appends a b) (h' : Appends b c) :
    Appends a c :=
  ⟨h.sendList.trans h'.sendList, h'.destroyed.trans h.destroyed⟩

structure ChannelView where
  current : NcConnectionChannel
  alternative : NcConnectionChannel
  maxSequence : UInt64
  heardOn : UInt8

def NcClientConnection.channelView (conn : NcClientConnection) : ChannelView :=
  ⟨conn.currentChannel, conn.alternativeChannel, conn.currentMaxSequence,
    conn.dtls.currentChannelId⟩

structure SameRoute (conn conn' : NcClientConnection) : Prop where
  id : conn'.id = conn.id
  channels : conn'.channelView = conn.channelView

/-- A call that at most queues a packet. -/
structure Calm (conn conn' : NcClientConnection) :
    Prop extends Appends conn conn', SameRoute conn conn'

theorem Calm.same {conn conn' : NcClientConnection}
    (hlist : conn'.dtls.sendList = conn.dtls.sendList)
    (hdestroyed : conn'.destroyed = conn.destroyed) (hid : conn'.id = conn.id)
    (hchannels : conn'.channelView = conn.channelView) : Calm conn conn' :=
  ⟨.same hlist hdestroyed, hid, hchannels⟩

variable (conn : NcClientConnection) (env : SrvEnv)

/-- `mbedtls` only touches the UDP side of the connection. -/
theorem mbedtlsSends_only :
    (mbedtlsSends conn env).dtls.sendList = conn.dtls.sendList ∧
      (mbedtlsSends conn env).dtls.state = conn.dtls.state ∧
      (mbedtlsSends conn env).dtls.channelId = conn.dtls.channelId ∧
      (mbedtlsSends conn env).destroyed = conn.destroyed := by
  unfold mbedtlsSends nmMbedtlsSrvMbedtlsSend ncClientConnectionAsyncSendToUdp
  split_ifs <;> exact ⟨rfl, rfl, rfl, rfl⟩

theorem calm_mbedtlsSends : Calm conn (mbedtlsSends conn env) := by
  unfold mbedtlsSends nmMbedtlsSrvMbedtlsSend ncClientConnectionAsyncSendToUdp
  split_ifs <;> exact .same rfl rfl rfl rfl

theorem calm_asyncSendData (sendCtx : NpDtlsSrvSendContext) :
    Calm conn (nmMbedtlsSrvAsyncSendData conn sendCtx) := by
  unfold nmMbedtlsSrvAsyncSendData
  split_ifs
  · exact .same rfl rfl rfl rfl
  · exact ⟨⟨List.prefix_append _ _, rfl⟩, rfl, rfl⟩

variable (channelId : UInt8)

theorem appends_handleData (sequence : UInt64) (buffer : List UInt8) :
    Appends conn (ncClientConnectionHandleData conn channelId sequence buffer) := by
  unfold ncClientConnectionHandleData
  split_ifs with hkeepAlive
  · unfold ncClientConnectionHandleKeepAlive ncClientConnectionKeepAliveSendResponse
    split_ifs
    · cases ncKeepAliveHandleRequest conn.keepAlive buffer with
      | none => exact Appends.same rfl rfl
      | some keepAlive =>
        have hsend := calm_asyncSendData { conn with keepAlive } ⟨true, channelId⟩
        exact ⟨hsend.sendList, hsend.destroyed⟩
    · exact Appends.same rfl rfl
  · dsimp only
    split_ifs <;> exact Appends.same rfl rfl
  · exact Appends.same rfl rfl

theorem handleData_state (sequence : UInt64) (buffer : List UInt8) :
    (ncClientConnectionHandleData conn channelId sequence buffer).dtls.state = conn.dtls.state := by
  unfold ncClientConnectionHandleData ncClientConnectionHandleKeepAlive
    ncClientConnectionKeepAliveSendResponse nmMbedtlsSrvAsyncSendData
  cases ncKeepAliveHandleRequest conn.keepAlive buffer <;> dsimp only <;> split_ifs <;> rfl

theorem appends_doOne : Appends conn (nmMbedtlsSrvDoOne conn env) := by
  have hsends := (calm_mbedtlsSends conn env).toAppends
  unfold nmMbedtlsSrvDoOne
  cases conn.dtls.state with
  | connecting => cases env.handshake <;> exact hsends.trans (Appends.same rfl rfl)
  | data =>
    cases env.read with
    | data sequence buffer =>
      have hdata := appends_handleData { mbedtlsSends conn env with
        dtls := { (mbedtlsSends conn env).dtls with
          recvCount := (mbedtlsSends conn env).dtls.recvCount + 1 } }
        (mbedtlsSends conn env).dtls.currentChannelId sequence buffer
      exact hsends.trans ⟨hdata.sendList, hdata.destroyed⟩
    | eof | wantReadWrite | closeNotify | error => exact hsends.trans (Appends.same rfl rfl)
  | closing => exact Appends.same rfl rfl

theorem appends_handlePacket (env : SrvEnv) :
    Appends conn (nmMbedtlsSrvHandlePacket conn channelId env) := by
  have hone := appends_doOne { conn with
    dtls := { conn.dtls with currentChannelId := channelId, channelId := channelId } } env
  exact ⟨hone.sendList, hone.destroyed⟩

theorem appends_seenOn (sock ep : ℕ) : Appends conn (conn.seenOn channelId sock ep) := by
  unfold NcClientConnection.seenOn
  split_ifs <;> exact Appends.same rfl rfl

theorem appends_sendToUdpCb (ok : Bool) (env : SrvEnv) :
    Appends conn (ncClientConnectionSendToUdpCb conn ok env) := by
  unfold ncClientConnectionSendToUdpCb nmMbedtlsSrvConnectionSendCallback
  split_ifs
  · exact Appends.same rfl rfl
  · exact Appends.same rfl rfl
  · dsimp only
    split_ifs
    · exact Appends.same rfl rfl
    · have hone := appends_doOne { conn with
        sentCb := false, dtls := { conn.dtls with sending := false } } env
      exact ⟨hone.sendList, hone.destroyed⟩

theorem calm_asyncClose : Calm conn (nmMbedtlsSrvAsyncClose conn env) := by
  unfold nmMbedtlsSrvAsyncClose
  split_ifs
  · exact .same rfl rfl rfl rfl
  · have hsends := calm_mbedtlsSends (conn.setState .closing) env
    exact ⟨⟨hsends.sendList, hsends.destroyed⟩, hsends.id, hsends.channels⟩

theorem calm_keepAliveEvent : Calm conn (ncClientConnectionKeepAliveEvent conn env) := by
  unfold ncClientConnectionKeepAliveEvent
  cases ncKeepAliveShouldSend conn.keepAlive conn.dtls.recvCount conn.dtls.sentCount with
  | mk keepAlive action =>
    cases action with
    | doNothing => exact .same rfl rfl rfl rfl
    | sendKa =>
      have hsend := calm_asyncSendData { conn with
        keepAlive := ncKeepAliveCreateRequest { keepAlive with armed := false } }
        ⟨true, conn.currentChannel.channelId⟩
      exact ⟨⟨hsend.sendList, hsend.destroyed⟩, hsend.id, hsend.channels⟩
    | kaTimeout =>
      have hclose := calm_asyncClose { conn with
        keepAlive := { keepAlive with armed := false } } env
      exact ⟨⟨hclose.sendList, hclose.destroyed⟩, hclose.id, hclose.channels⟩

theorem sameRoute_startSendDeferred : SameRoute conn (nmMbedtlsSrvStartSendDeferred conn env) := by
  unfold nmMbedtlsSrvStartSendDeferred
  split_ifs
  · exact ⟨rfl, rfl⟩
  · cases conn.dtls.sendList with
    | nil => exact ⟨rfl, rfl⟩
    | cons next rest =>
      have hsends := calm_mbedtlsSends (conn.takeSend next rest) env
      exact ⟨hsends.id, hsends.channels⟩

theorem sameRoute_doEventCallback : SameRoute conn (nmMbedtlsSrvDoEventCallback conn env) := by
  unfold nmMbedtlsSrvDoEventCallback
  split_ifs
  · exact ⟨rfl, rfl⟩
  · unfold ncClientConnectionHandleEvent
    cases conn.dtls.deferredEvent with
    | closed => exact ⟨rfl, rfl⟩
    | handshakeComplete =>
      dsimp only
      split_ifs
      · exact ⟨rfl, rfl⟩
      · have hclose := calm_asyncClose { conn with
          dtls := { conn.dtls with deferredEventEvent := false } } env
        exact ⟨hclose.id, hclose.channels⟩

theorem sameRoute_eventClose : SameRoute conn (nmMbedtlsSrvEventClose conn) := by
  unfold nmMbedtlsSrvEventClose
  dsimp only
  split_ifs <;> exact ⟨rfl, rfl⟩

def destroys (conn : NcClientConnection) : ClientConnectionEvent → Bool
  | .deferredEvent _ =>
    !(conn.dtls.state = .closing && conn.dtls.sending) && conn.dtls.deferredEvent = .closed
  | .closeEvent => !conn.dtls.sending && conn.dtls.closeCb
  | _ => false

theorem doEventCallback_sends {conn : NcClientConnection} (halive : conn.destroyed = false) :
    (nmMbedtlsSrvDoEventCallback conn env).destroyed = destroys conn (.deferredEvent env) ∧
      conn.dtls.sendList <+: (nmMbedtlsSrvDoEventCallback conn env).dtls.sendList := by
  unfold nmMbedtlsSrvDoEventCallback
  split_ifs with hwaits
  · exact ⟨by simp [destroys, hwaits, halive], List.prefix_refl _⟩
  · cases hevent : conn.dtls.deferredEvent with
    | closed =>
      have hdestroys : destroys conn (.deferredEvent env) = true := by
        simp only [destroys, hevent]
        grind
      rw [hdestroys]
      exact ⟨rfl, List.prefix_refl _⟩
    | handshakeComplete =>
      have hdestroys : destroys conn (.deferredEvent env) = false := by simp [destroys, hevent]
      rw [hdestroys]
      unfold ncClientConnectionHandleEvent
      dsimp only
      split_ifs
      · exact ⟨halive, List.prefix_refl _⟩
      · have hclose := calm_asyncClose { conn with
          dtls := { conn.dtls with deferredEventEvent := false } } env
        exact ⟨hclose.destroyed.trans halive, hclose.sendList⟩

theorem eventClose_sends {conn : NcClientConnection} (halive : conn.destroyed = false) :
    (nmMbedtlsSrvEventClose conn).destroyed = destroys conn .closeEvent ∧
      conn.dtls.sendList <+: (nmMbedtlsSrvEventClose conn).dtls.sendList := by
  unfold nmMbedtlsSrvEventClose
  split_ifs with hsending
  · exact ⟨by simp [destroys, hsending, halive], List.prefix_refl _⟩
  · dsimp only
    split_ifs with hcb
    · exact ⟨by simp [destroys, hsending, hcb, ncClientConnectionDestroyConnection],
        List.prefix_refl _⟩
    · exact ⟨by simp [destroys, hcb, halive], List.prefix_refl _⟩

theorem startSendDeferred_only :
    (nmMbedtlsSrvStartSendDeferred conn env).dtls.state = conn.dtls.state ∧
      (nmMbedtlsSrvStartSendDeferred conn env).destroyed = conn.destroyed ∧
      (nmMbedtlsSrvStartSendDeferred conn env).dtls.sendList =
        if conn.dtls.sending then conn.dtls.sendList else conn.dtls.sendList.tail := by
  unfold nmMbedtlsSrvStartSendDeferred
  split_ifs with hsending
  · exact ⟨rfl, rfl, rfl⟩
  · cases hlist : conn.dtls.sendList with
    | nil => exact ⟨rfl, rfl, hlist⟩
    | cons next rest =>
      obtain ⟨htaken, hstate, -, hdestroyed⟩ := mbedtlsSends_only (conn.takeSend next rest) env
      exact ⟨hstate, hdestroyed, htaken⟩

theorem state_of_takesSend {conn conn' : NcClientConnection}
    (hs : clientConnectionStep conn e = some conn') (h : takesSend conn e = true) :
    conn'.dtls.state = conn.dtls.state ∧ conn'.dtls.sendList = conn.dtls.sendList.tail := by
  cases clientConnectionCase_of_step hs with
  | startSend env =>
    obtain ⟨hstate, -, hlist⟩ := startSendDeferred_only conn.startSendFired env
    have hfree : conn.dtls.sending = false := by simpa using (Bool.and_eq_true_iff.mp h).1
    rw [if_neg (by simp [NcClientConnection.startSendFired, hfree])] at hlist
    exact ⟨hstate, hlist⟩
  | packet | timer | deferredEvent | closeEvent | close | keepAliveEvent | sendData | udpDone =>
    cases h

theorem clientConnectionStep_sends {conn conn' : NcClientConnection}
    (h : clientConnectionStep conn e = some conn') :
    conn'.destroyed = destroys conn e ∧
      (takesSend conn e = false → conn.dtls.sendList <+: conn'.dtls.sendList) := by
  have halive : conn.destroyed = false := by simpa using (Option.ite_none_left_eq_some.mp h).1
  have happends (happ : Appends conn conn') (hd : destroys conn e = false) :
      conn'.destroyed = destroys conn e ∧
        (takesSend conn e = false → conn.dtls.sendList <+: conn'.dtls.sendList) :=
    ⟨by rw [happ.destroyed, halive, hd], fun _ => happ.sendList⟩
  cases clientConnectionCase_of_step h with
  | packet sock ep buffer env =>
    refine happends ?_ rfl
    unfold ncClientConnectionHandlePacket
    split_ifs
    · exact Appends.same rfl rfl
    · exact (appends_seenOn conn _ sock ep).trans (appends_handlePacket _ _ env)
  | timer env => exact happends (appends_doOne conn env) rfl
  | startSend env =>
    obtain ⟨-, hdestroyed, hlist⟩ := startSendDeferred_only conn.startSendFired env
    refine ⟨hdestroyed.trans halive, fun hnone => ?_⟩
    rw [hlist]
    split_ifs with hsending
    · exact List.prefix_refl _
    · replace hsending : conn.dtls.sending = false := Bool.eq_false_iff.mpr hsending
      have hempty : conn.dtls.sendList = [] := by simpa [takesSend, hsending] using hnone
      rw [hempty]
      exact List.nil_prefix
  | deferredEvent env => exact (doEventCallback_sends env halive).imp_right fun h _ => h
  | closeEvent => exact (eventClose_sends halive).imp_right fun h _ => h
  | close env => exact happends (calm_asyncClose conn env).toAppends rfl
  | keepAliveEvent env => exact happends (calm_keepAliveEvent conn env).toAppends rfl
  | sendData => exact happends (calm_asyncSendData conn _).toAppends rfl
  | @udpDone channel rest ok env hsends =>
    have hcb := appends_sendToUdpCb { conn with udpSends := rest } ok env
    exact happends ⟨hcb.sendList, hcb.destroyed⟩ rfl

end NabtoDevice
