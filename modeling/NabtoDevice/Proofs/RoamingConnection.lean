import NabtoDevice.Lib.Machine
import NabtoDevice.Proofs.ClientConnection
import NabtoDevice.Spec.RoamingConnection
import Mathlib.Tactic.Common

/-! Which records move a client connection to another channel. Only
`nc_client_connection_handle_data` changes the channel in use, and it compares the
sequences that the host has loaded. -/

namespace NabtoDevice

def ChannelView.hears (v : ChannelView) (sequence : UInt64) : ChannelView :=
  if sequence > v.maxSequence then
    { v with
      maxSequence := sequence
      current :=
        if v.current.channelId ≠ v.heardOn ∧ v.alternative.channelId = v.heardOn then v.alternative
        else v.current }
  else v

variable (conn : NcClientConnection) (env : SrvEnv)

variable (sequence : UInt64)

theorem handleData_channels (buffer : List UInt8) :
    (ncClientConnectionHandleData conn conn.dtls.currentChannelId sequence buffer).channelView =
      if buffer.head? = some atKeepAlive then conn.channelView
      else conn.channelView.hears sequence := by
  unfold ncClientConnectionHandleData
  by_cases hkeepAlive : buffer.head? = some atKeepAlive
  · rw [if_pos hkeepAlive, if_pos hkeepAlive]
    unfold ncClientConnectionHandleKeepAlive ncClientConnectionKeepAliveSendResponse
    split_ifs
    · cases ncKeepAliveHandleRequest conn.keepAlive buffer with
      | none => rfl
      | some keepAlive => exact (calm_asyncSendData { conn with keepAlive } _).channels
    · rfl
  · rw [if_neg hkeepAlive, if_neg hkeepAlive, ChannelView.hears]
    by_cases hnew : sequence > conn.currentMaxSequence
    · rw [if_pos hnew, if_pos (show sequence > conn.channelView.maxSequence from hnew)]
      dsimp only
      split_ifs with hmoves hother hother
      · rfl
      · exact absurd hmoves hother
      · exact absurd hother hmoves
      · rfl
    · rw [if_neg hnew, if_neg (show ¬ sequence > conn.channelView.maxSequence from hnew)]

theorem doOne_channels :
    (nmMbedtlsSrvDoOne conn (env.withSequence sequence)).channelView =
      if env.readsData conn.dtls.state then conn.channelView.hears sequence
      else conn.channelView := by
  have hsends := (calm_mbedtlsSends conn (env.withSequence sequence)).channels
  unfold nmMbedtlsSrvDoOne SrvEnv.readsData
  cases hstate : conn.dtls.state with
  | connecting => cases (env.withSequence sequence).handshake <;> exact hsends
  | data =>
    cases hread : env.read with
    | data sequence' buffer =>
      have henv : env.withSequence sequence = { env with read := .data sequence buffer } := by
        unfold SrvEnv.withSequence
        rw [hread]
      rw [henv] at hsends ⊢
      dsimp only
      generalize mbedtlsSends conn { env with read := .data sequence buffer } = sent at hsends ⊢
      have hdata := handleData_channels { sent with
        dtls := { sent.dtls with recvCount := sent.dtls.recvCount + 1 } } sequence buffer
      have hcounted : NcClientConnection.channelView { sent with
          dtls := { sent.dtls with
            recvCount := sent.dtls.recvCount + 1 } } = conn.channelView := hsends
      rw [hcounted] at hdata
      rw [hdata]
      by_cases hkeepAlive : buffer.head? = some atKeepAlive <;> simp [hkeepAlive]
    | eof | wantReadWrite | closeNotify | error =>
      have henv : env.withSequence sequence = env := by
        unfold SrvEnv.withSequence
        rw [hread]
      rw [henv] at hsends ⊢
      rw [hread]
      exact hsends
  | closing => rfl

theorem seenOn_dtls (channelId : UInt8) (sock ep : ℕ) :
    (conn.seenOn channelId sock ep).dtls = conn.dtls := by
  unfold NcClientConnection.seenOn
  split_ifs <;> rfl

theorem handlePacket_channels (sock ep : ℕ) (buffer : List UInt8) (env : SrvEnv)
    (sequence : UInt64) :
    (ncClientConnectionHandlePacket conn sock ep buffer (env.withSequence sequence)).channelView =
      if deliversRecord conn (.packet sock ep buffer env) then
        (heardBy conn (.packet sock ep buffer env)).channelView.hears sequence
      else (heardBy conn (.packet sock ep buffer env)).channelView := by
  unfold ncClientConnectionHandlePacket
  have hiff : (buffer[0]? = some nabtoProtocolPrefixRendezvous ∧
      buffer[16]? = some ctRendezvousClientRequest) ↔ bearsRendezvousRequest buffer = true := by
    simp [bearsRendezvousRequest]
  by_cases hrequest : bearsRendezvousRequest buffer = true
  · rw [if_pos (hiff.mpr hrequest)]
    simp [deliversRecord, heardBy, hrequest]
  · rw [if_neg (fun h => hrequest (hiff.mp h))]
    have hone := doOne_channels { conn.seenOn (buffer.getD 15 0) sock ep with
      dtls := { (conn.seenOn (buffer.getD 15 0) sock ep).dtls with
        currentChannelId := buffer.getD 15 0, channelId := buffer.getD 15 0 } } env sequence
    have hstate : (conn.seenOn (buffer.getD 15 0) sock ep).dtls.state = conn.dtls.state := by
      rw [seenOn_dtls]
    simp only [deliversRecord, heardBy, hrequest, Bool.not_false, Bool.true_and, if_false,
      Bool.false_eq_true]
    rw [← hstate]
    exact hone

theorem sendToUdpCb_channels (ok : Bool) (env : SrvEnv) (sequence : UInt64) :
    (ncClientConnectionSendToUdpCb conn ok (env.withSequence sequence)).channelView =
      if deliversRecord conn
        (.udpDone ok env) then conn.channelView.hears sequence else conn.channelView := by
  unfold ncClientConnectionSendToUdpCb nmMbedtlsSrvConnectionSendCallback deliversRecord
  cases hcb : conn.sentCb with
  | false => rfl
  | true =>
    cases ok with
    | false => rfl
    | true =>
      dsimp only
      by_cases hclosing : conn.dtls.state = .closing
      · rw [if_neg (by simp), if_neg (by simp), if_pos hclosing, hclosing]
        rfl
      · rw [if_neg (by simp), if_neg (by simp), if_neg hclosing]
        exact doOne_channels { conn with
          sentCb := false, dtls := { conn.dtls with sending := false } } env sequence

theorem step_channels {conn conn' : NcClientConnection} {e : ClientConnectionEvent}
    {sequence : UInt64} (hs : clientConnectionStep conn (e.withSequence sequence) = some conn') :
    conn'.channelView =
      if deliversRecord conn e then (heardBy conn e).channelView.hears sequence
      else (heardBy conn e).channelView := by
  obtain ⟨-, hs⟩ := Option.ite_none_left_eq_some.mp hs
  cases e with
  | packet sock ep buffer env =>
    obtain ⟨-, rfl⟩ := Machine.of_guard_not hs
    exact handlePacket_channels conn sock ep buffer env sequence
  | timer env => rw [← Option.some.inj hs, doOne_channels]; rfl
  | startSend env =>
    obtain ⟨-, rfl⟩ := Machine.of_guard hs
    exact (sameRoute_startSendDeferred conn.startSendFired env).channels
  | deferredEvent env =>
    obtain ⟨-, rfl⟩ := Machine.of_guard hs
    exact (sameRoute_doEventCallback conn env).channels
  | closeEvent =>
    obtain ⟨-, rfl⟩ := Machine.of_guard hs
    exact (sameRoute_eventClose conn).channels
  | close env =>
    rw [← Option.some.inj hs]
    exact (calm_asyncClose conn env).channels
  | keepAliveEvent env =>
    obtain ⟨-, rfl⟩ := Machine.of_guard hs
    exact (calm_keepAliveEvent conn env).channels
  | sendData =>
    rw [← Option.some.inj hs]
    exact (calm_asyncSendData conn _).channels
  | udpDone ok env =>
    cases hudp : conn.udpSends with
    | nil => simp [ClientConnectionEvent.withSequence, hudp] at hs
    | cons channel rest =>
      simp only [ClientConnectionEvent.withSequence, hudp, Option.some.injEq] at hs
      rw [← hs]
      exact sendToUdpCb_channels { conn with udpSends := rest } ok env sequence

theorem channelId_heardBy (e : ClientConnectionEvent) :
    (heardBy conn e).currentChannel.channelId = conn.currentChannel.channelId := by
  cases e with
  | packet sock ep buffer env =>
    unfold heardBy NcClientConnection.seenOn
    dsimp only
    split_ifs <;> rfl
  | _ => rfl

def ChannelView.Heard (v : ChannelView) : Prop :=
  v.heardOn = v.current.channelId ∨ v.heardOn = v.alternative.channelId

theorem heard_heardBy {conn : NcClientConnection} (e : ClientConnectionEvent)
    (h : conn.channelView.Heard) : (heardBy conn e).channelView.Heard := by
  cases e with
  | packet sock ep buffer env =>
    unfold heardBy NcClientConnection.seenOn
    dsimp only
    split_ifs with hrequest hother
    · exact h
    · exact Or.inr rfl
    · exact Or.inl (not_not.mp hother)
  | _ => exact h

theorem maxSequence_heardBy (e : ClientConnectionEvent) :
    (heardBy conn e).currentMaxSequence = conn.currentMaxSequence := by
  cases e with
  | packet sock ep buffer env =>
    unfold heardBy NcClientConnection.seenOn
    dsimp only
    split_ifs <;> rfl
  | _ => rfl

theorem heard_open (id : List UInt8) (sock ep : ℕ) (env : SrvEnv) :
    (ncClientConnectionOpen id sock ep env).channelView =
      ⟨⟨sock, ep, id.getD 15 0⟩, ⟨sock, ep, id.getD 15 0⟩, 0, id.getD 15 0⟩ := by
  unfold ncClientConnectionOpen nmMbedtlsSrvHandlePacket nmMbedtlsSrvDoOne
  dsimp only [nmMbedtlsSrvCreateConnection]
  cases env.handshake <;> exact (calm_mbedtlsSends _ env).channels

variable {v : ChannelView}

namespace ChannelView

theorem hears_old {sequence : UInt64} (h : ¬ sequence > v.maxSequence) : v.hears sequence = v :=
  if_neg h

theorem hears_new {sequence : UInt64} (hv : v.Heard) (h : sequence > v.maxSequence) :
    v.hears sequence = { v with
      maxSequence := sequence
      current := if v.heardOn ≠ v.current.channelId then v.alternative else v.current } := by
  unfold hears
  rw [if_pos h]
  by_cases hmoves : v.heardOn = v.current.channelId
  · simp [hmoves]
  · have halternative : v.heardOn = v.alternative.channelId := hv.resolve_left hmoves
    simp [halternative, ne_comm]

theorem heard_hears (hv : v.Heard) (sequence : UInt64) : (v.hears sequence).Heard := by
  by_cases h : sequence > v.maxSequence
  · rw [hears_new hv h]
    by_cases hmoves : v.heardOn = v.current.channelId
    · exact Or.inl (by simp [hmoves])
    · exact Or.inr (hv.resolve_left hmoves)
  · rw [hears_old h]
    exact hv

end ChannelView

variable {order : ByteOrder} {c c' : RoamingConnection} {e : ClientConnectionEvent × DtlsRecord}

namespace RoamingConnection

def newest (c : RoamingConnection) (record : DtlsRecord) : Bool :=
  c.records.all fun r => r.number < record.number

def seemsNewest (order : ByteOrder) (c : RoamingConnection) (record : DtlsRecord) : Bool :=
  0 < order.load record.inCtr && c.records.all fun r => order.load r.inCtr < order.load record.inCtr

/-- A newest record arrives on the alternative channel. -/
def shouldMove (c : RoamingConnection) (e : ClientConnectionEvent × DtlsRecord) : Bool :=
  deliversRecord c.conn e.1 && c.newest e.2 && e.2.channel ≠ c.conn.currentChannel.channelId &&
    e.2.channel = (heardBy c.conn e.1).alternativeChannel.channelId

/-- A record that the host takes for the newest is read when the last packet came on another
channel than the current one. -/
def moves (order : ByteOrder) (c : RoamingConnection) (e : ClientConnectionEvent × DtlsRecord) :
    Bool :=
  deliversRecord c.conn e.1 && c.seemsNewest order e.2 &&
    (heardBy c.conn e.1).dtls.currentChannelId ≠ c.conn.currentChannel.channelId

structure MovesRightly (c : RoamingConnection) (e : ClientConnectionEvent × DtlsRecord)
    (c' : RoamingConnection) : Prop where
  changes : c'.conn.currentChannel.channelId ≠ c.conn.currentChannel.channelId ↔
    c.shouldMove e = true
  becomes : c'.conn.currentChannel.channelId ≠ c.conn.currentChannel.channelId →
    c'.conn.currentChannel = c'.conn.alternativeChannel ∧
      c'.conn.currentChannel.channelId = e.2.channel

structure Tracks (order : ByteOrder) (c : RoamingConnection) : Prop where
  maxSequence : ∀ v, c.conn.currentMaxSequence.toNat < v ↔
    0 < v ∧ ∀ r ∈ c.records, order.load r.inCtr < v
  heard : c.conn.channelView.Heard

theorem toNat_sequence (order : ByteOrder) (record : DtlsRecord) :
    (record.sequence order).toNat = order.load record.inCtr := by
  have hlt := order.load_lt record.inCtr
  rw [record.size] at hlt
  exact UInt64.toNat_ofNat_of_lt' (by omega)

theorem Tracks.seemsNewest_iff (h : Tracks order c) (record : DtlsRecord) :
    record.sequence order > c.conn.currentMaxSequence ↔ c.seemsNewest order record = true := by
  rw [gt_iff_lt, UInt64.lt_iff_toNat_lt, toNat_sequence, h.maxSequence]
  simp [seemsNewest]

theorem step_cases (hs : roamingConnectionStep order c e = some c') :
    deliversRecord c.conn e.1 = true ∧ c'.records = c.records ++ [e.2] ∧
        c'.conn.channelView = (heardBy c.conn e.1).channelView.hears (e.2.sequence order) ∨
      deliversRecord c.conn e.1 = false ∧ c'.records = c.records ∧
        c'.conn.channelView = (heardBy c.conn e.1).channelView := by
  obtain ⟨conn, hconn, rfl⟩ := Option.map_eq_some_iff.mp hs
  have hview := step_channels hconn
  cases hdelivers : deliversRecord c.conn e.1 with
  | true =>
    rw [hdelivers, if_pos rfl] at hview
    exact Or.inl ⟨rfl, rfl, hview⟩
  | false =>
    rw [hdelivers, if_neg (by simp)] at hview
    exact Or.inr ⟨rfl, rfl, hview⟩

/-- The channel in use changes exactly when the host moves the connection. -/
theorem channels_of_moves (h : Tracks order c) (hs : roamingConnectionStep order c e = some c') :
    (c.moves order e = true → c'.conn.currentChannel = c'.conn.alternativeChannel ∧
      c'.conn.currentChannel.channelId ≠ c.conn.currentChannel.channelId ∧
      c'.conn.currentChannel.channelId = (heardBy c.conn e.1).alternativeChannel.channelId) ∧
    (c.moves order e = false →
      c'.conn.currentChannel.channelId = c.conn.currentChannel.channelId) := by
  have hheard := heard_heardBy e.1 h.heard
  have hmax := maxSequence_heardBy c.conn e.1
  have hid := channelId_heardBy c.conn e.1
  rcases step_cases hs with ⟨hdelivers, -, hview⟩ | ⟨hdelivers, -, hview⟩
  · have hiff : e.2.sequence order > (heardBy c.conn e.1).channelView.maxSequence ↔
        c.seemsNewest order e.2 = true := by
      rw [← h.seemsNewest_iff, ← hmax]
      rfl
    by_cases hnew : e.2.sequence order > (heardBy c.conn e.1).channelView.maxSequence
    · rw [ChannelView.hears_new hheard hnew] at hview
      have hcurrent := congrArg ChannelView.current hview
      have halternative := congrArg ChannelView.alternative hview
      have hmoves : c.moves order e = decide ((heardBy c.conn e.1).channelView.heardOn ≠
          (heardBy c.conn e.1).channelView.current.channelId) := by
        unfold moves
        rw [hdelivers, hiff.mp hnew, ← hid]
        rfl
      rw [hmoves]
      by_cases hon : (heardBy c.conn e.1).channelView.heardOn =
        (heardBy c.conn e.1).channelView.current.channelId
      · have hstays : c'.conn.currentChannel = (heardBy c.conn e.1).currentChannel :=
          hcurrent.trans (if_neg (not_not.mpr hon))
        refine ⟨fun hmove => absurd hon (by simpa using hmove), fun _ => ?_⟩
        rw [hstays, hid]
      · have hgoes : c'.conn.currentChannel = (heardBy c.conn e.1).alternativeChannel :=
          hcurrent.trans (if_pos hon)
        have hsame : c'.conn.alternativeChannel = (heardBy c.conn e.1).alternativeChannel :=
          halternative
        refine ⟨fun _ => ⟨hgoes.trans hsame.symm, ?_, by rw [hgoes]⟩, fun hstay => ?_⟩
        · rw [hgoes, ← hid]
          intro heq
          exact hon ((hheard.resolve_left hon).trans heq)
        · exact absurd (by simpa using hstay) hon
    · rw [ChannelView.hears_old hnew] at hview
      have hcurrent : c'.conn.currentChannel = (heardBy c.conn e.1).currentChannel :=
        congrArg ChannelView.current hview
      refine ⟨fun hmoves => ?_, fun _ => by rw [hcurrent, hid]⟩
      have hseems : c.seemsNewest order e.2 = false := by simpa [hiff] using hnew
      simp [moves, hseems] at hmoves
  · have hcurrent : c'.conn.currentChannel = (heardBy c.conn e.1).currentChannel :=
      congrArg ChannelView.current hview
    refine ⟨fun hmoves => ?_, fun _ => by rw [hcurrent, hid]⟩
    simp [moves, hdelivers] at hmoves

theorem tracks_step (h : Tracks order c) (hs : roamingConnectionStep order c e = some c') :
    Tracks order c' := by
  have hheard := heard_heardBy e.1 h.heard
  have hmax := maxSequence_heardBy c.conn e.1
  rcases step_cases hs with ⟨-, hrecords, hview⟩ | ⟨-, hrecords, hview⟩
  · refine ⟨?_, hview ▸ ChannelView.heard_hears hheard _⟩
    rw [hrecords]
    intro v
    have hv := h.maxSequence v
    have hsequence := toNat_sequence order e.2
    have hall : (∀ r ∈ c.records ++ [e.2], order.load r.inCtr < v) ↔
        (∀ r ∈ c.records, order.load r.inCtr < v) ∧ order.load e.2.inCtr < v := by
      simp only [List.mem_append, List.mem_singleton, or_imp, forall_and, forall_eq]
    rw [hall]
    by_cases hnew : e.2.sequence order > (heardBy c.conn e.1).channelView.maxSequence
    · rw [ChannelView.hears_new hheard hnew] at hview
      have hmax' : c'.conn.currentMaxSequence = e.2.sequence order :=
        congrArg ChannelView.maxSequence hview
      have hlt : c.conn.currentMaxSequence.toNat < (e.2.sequence order).toNat :=
        UInt64.lt_iff_toNat_lt.mp (hmax ▸ hnew)
      rw [hmax', hsequence]
      rw [hsequence] at hlt
      constructor
      · intro hload
        have hpast := hv.mp (by omega)
        exact ⟨hpast.1, hpast.2, hload⟩
      · exact fun hv' => hv'.2.2
    · rw [ChannelView.hears_old hnew] at hview
      have hmax' : c'.conn.currentMaxSequence = c.conn.currentMaxSequence :=
        (congrArg ChannelView.maxSequence hview).trans hmax
      have hle : (e.2.sequence order).toNat ≤ c.conn.currentMaxSequence.toNat := by
        have hnot : ¬ e.2.sequence order > c.conn.currentMaxSequence := hmax ▸ hnew
        rw [gt_iff_lt, UInt64.lt_iff_toNat_lt] at hnot
        omega
      rw [hmax', hv]
      rw [hsequence] at hle
      constructor
      · intro hpast
        have hlt := hv.mpr hpast
        exact ⟨hpast.1, hpast.2, by omega⟩
      · exact fun hv' => ⟨hv'.1, hv'.2.1⟩
  · have hmax' : c'.conn.currentMaxSequence = c.conn.currentMaxSequence :=
      (congrArg ChannelView.maxSequence hview).trans hmax
    refine ⟨?_, hview ▸ hheard⟩
    rw [hmax', hrecords]
    exact h.maxSequence

/-- The bytes of a record that is read are not all zero and, as a number of the host, stand to
those of every earlier record as the record numbers do; and the record is read with a packet of
the channel it came on. -/
def readsInOrder (order : ByteOrder) (c : RoamingConnection)
    (e : ClientConnectionEvent × DtlsRecord) : Bool :=
  !deliversRecord c.conn e.1 ||
    (0 < order.load e.2.inCtr &&
      (c.records.all fun r =>
        decide (order.load r.inCtr < order.load e.2.inCtr) = decide (r.number < e.2.number)) &&
      e.2.channel = (heardBy c.conn e.1).dtls.currentChannelId)

theorem moves_of_inOrder (h : Tracks order c) (hread : c.readsInOrder order e = true) :
    c.moves order e = c.shouldMove e := by
  cases hdelivers : deliversRecord c.conn e.1 with
  | false => simp [moves, shouldMove, hdelivers]
  | true =>
    simp only [readsInOrder, hdelivers, Bool.not_true, Bool.false_or, Bool.and_eq_true,
      decide_eq_true_eq, List.all_eq_true, decide_eq_decide] at hread
    obtain ⟨⟨hpos, hagree⟩, hchannel⟩ := hread
    have hseems : c.seemsNewest order e.2 = c.newest e.2 := by
      unfold seemsNewest newest
      rw [decide_eq_true hpos, Bool.true_and, Bool.eq_iff_iff, List.all_eq_true, List.all_eq_true]
      simp only [decide_eq_true_eq]
      exact ⟨fun hall r hr => (hagree r hr).mp (hall r hr),
        fun hall r hr => (hagree r hr).mpr (hall r hr)⟩
    have hother : e.2.channel ≠ c.conn.currentChannel.channelId →
        e.2.channel = (heardBy c.conn e.1).alternativeChannel.channelId := by
      intro hne
      rw [hchannel]
      refine (heard_heardBy e.1 h.heard).resolve_left fun heq => hne ?_
      rw [hchannel, ← channelId_heardBy c.conn e.1]
      exact heq
    unfold moves shouldMove
    rw [hseems, ← hchannel]
    by_cases hne : e.2.channel = c.conn.currentChannel.channelId
    · simp [hne]
    · simp [hother hne]

theorem movesRightly_of_inOrder (h : Tracks order c)
    (hs : roamingConnectionStep order c e = some c')
    (hread : c.readsInOrder order e = true) : c.MovesRightly e c' := by
  obtain ⟨hgoes, hstays⟩ := channels_of_moves h hs
  rw [moves_of_inOrder h hread] at hgoes hstays
  have hchanges : c'.conn.currentChannel.channelId ≠ c.conn.currentChannel.channelId ↔
      c.shouldMove e = true := by
    constructor
    · intro hne
      by_contra hnot
      exact hne (hstays (by simpa using hnot))
    · exact fun hmove => (hgoes hmove).2.1
  refine ⟨hchanges, fun hne => ?_⟩
  have hshould := hchanges.mp hne
  obtain ⟨hsame, -, hid⟩ := hgoes hshould
  simp only [shouldMove, Bool.and_eq_true, decide_eq_true_eq] at hshould
  exact ⟨hsame, hid.trans hshould.2.symm⟩

theorem tracks_open (order : ByteOrder) (id : List UInt8) (sock ep : ℕ) (env : SrvEnv) :
    Tracks order ⟨ncClientConnectionOpen id sock ep env, []⟩ := by
  have hview := heard_open id sock ep env
  constructor
  · intro v
    have hmax : (ncClientConnectionOpen id sock ep env).currentMaxSequence = 0 :=
      congrArg ChannelView.maxSequence hview
    simp [hmax]
  · rw [hview]
    exact Or.inl rfl

end RoamingConnection

/-- The sequence grows with the record number exactly on hosts that store the most
significant byte first; and in every run of a connection, on hosts of either order, a step
changes the channel in use exactly where a newest record arrives on the alternative one, if
the record of the step is read in order. -/
theorem channel_follows_newest_record (order : ByteOrder) :
    ((∀ r r' : DtlsRecord, r.number < r'.number → r.sequence order < r'.sequence order) ↔
      order = .big) ∧
    ∀ id sock ep env evs t e t', (roamingConnection order id sock ep env).Takes evs t e →
      (roamingConnection order id sock ep env).step t e = some t' →
        t.readsInOrder order e = true → t.MovesRightly e t' := by
  constructor
  · cases order with
    | big =>
      refine ⟨fun _ => rfl, fun _ r r' hlt => ?_⟩
      rw [UInt64.lt_iff_toNat_lt, RoamingConnection.toNat_sequence,
        RoamingConnection.toNat_sequence]
      exact hlt
    | little =>
      refine ⟨fun hmono => ?_, nofun⟩
      -- the records 255 and 256 of an epoch
      have hlt := hmono ⟨[0, 1, 0, 0, 0, 0, 0, 255], 0, rfl⟩ ⟨[0, 1, 0, 0, 0, 0, 1, 0], 0, rfl⟩
        (by decide +kernel)
      exact absurd hlt (by decide +kernel)
  · intro id sock ep env evs t e t' ht hs hread
    obtain ⟨pre, -, hr⟩ := ht.visits
    have htracks := hr.invariant (RoamingConnection.Tracks order)
      (RoamingConnection.tracks_open order id sock ep env) fun _ _ _ =>
        RoamingConnection.tracks_step
    exact RoamingConnection.movesRightly_of_inOrder htracks hs hread

def epochRecord (high low channel : UInt8) : DtlsRecord :=
  ⟨[0, 1, 0, 0, 0, 0, high, low], channel, rfl⟩

def changeChannelRun (first second : UInt8 → DtlsRecord) :
    List (ClientConnectionEvent × DtlsRecord) :=
  (connectedRun.map fun e => (e, epochRecord 0 0 1)) ++
    [(.packet 0 0 (List.replicate 15 240 ++ [1]) { read := .data 0 [64] }, first 1),
     (.packet 0 5 (List.replicate 15 240 ++ [2]) { read := .data 0 [64] }, second 2)]

theorem channel_follows_second_record :
    (∃ s, (roamingConnection .little (List.replicate 15 240 ++ [1]) 0 0 {}).Run
        (changeChannelRun (epochRecord 0 1) (epochRecord 0 2)) s ∧
          s.conn.currentChannel = ⟨0, 5, 2⟩) ∧
    ∀ t e t', (roamingConnection .little (List.replicate 15 240 ++ [1]) 0 0 {}).Takes
        (changeChannelRun (epochRecord 0 1) (epochRecord 0 2)) t e →
      (roamingConnection .little (List.replicate 15 240 ++ [1]) 0 0 {}).step t e = some t' →
        t.MovesRightly e t' := by
  refine ⟨⟨_, Machine.run_of_exec rfl, by decide +kernel⟩, fun t e t' ht hs => ?_⟩
  refine (channel_follows_newest_record .little).2 _ _ _ _ _ t e t' ht hs ?_
  exact Machine.takes_of_allTaken (by decide +kernel) ht

/-- Record 256 of the epoch is newer than record 255 and arrives on channel 2. A host that
stores the least significant byte first stays on channel 1. -/
theorem record_256_stays_on_old_channel :
    ∃ t t', (roamingConnection .little (List.replicate 15 240 ++ [1]) 0 0 {}).Run
        (changeChannelRun (epochRecord 0 255) (epochRecord 1 0)).dropLast t ∧
      (roamingConnection .little (List.replicate 15 240 ++ [1]) 0 0 {}).step t
        (.packet 0 5 (List.replicate 15 240 ++ [2]) { read := .data 0 [64] }, epochRecord 1 0 2) =
          some t' ∧
      (epochRecord 0 255 1).number < (epochRecord 1 0 2).number ∧
        t'.conn.currentChannel = ⟨0, 0, 1⟩ ∧
      ¬ t.MovesRightly
        (.packet 0 5 (List.replicate 15 240 ++ [2]) { read := .data 0 [64] },
          epochRecord 1 0 2) t' := by
  refine ⟨_, _, Machine.run_of_exec rfl, rfl, by decide +kernel, by decide +kernel,
    fun hright => ?_⟩
  have hmoved := hright.changes.mpr (by decide +kernel)
  exact absurd hmoved (by decide +kernel)

end NabtoDevice
