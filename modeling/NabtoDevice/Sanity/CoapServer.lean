import NabtoDevice.Lib.Tally
import NabtoDevice.Sanity.ClientConnection
import NabtoDevice.Spec.CoapServer

/-! The one send context of the CoAP server: how often it is queued on the connections, and
which connection a call of `nc_coap_server_event` sends on. -/

namespace NabtoDevice

variable {c : ℕ} {ctx : CoapServer} {cc : CoapConnection}

namespace CoapServer

/-- Accepted sends whose callback is still to come: a queued send context is called back
when it is sent, or when its connection is destroyed. -/
def outstanding (ctx : CoapServer) : ℕ :=
  (ctx.connections.map fun cc => cc.coapSends.count true).sum

def FlagMatches (ctx : CoapServer) : Prop := ctx.outstanding = if ctx.isSending then 1 else 0

instance (ctx : CoapServer) : Decidable ctx.FlagMatches := inferInstanceAs (Decidable (_ = _))

def isClosing (ctx : CoapServer) (c : ℕ) : Bool :=
  ctx.connections[c]?.any fun cc => cc.conn.dtls.state = .closing

/-- The connection that is sent on, when the library knows the connections `known`. -/
def sendTarget (known : ℕ → Bool) : List CoapServerNextEvent → Option ℕ
  | .send connection packet :: answers =>
    match connection.filter known with
    | none => sendTarget known answers
    | some c => if packet = false then sendTarget known answers else some c
  | _ => none

def refusesSend (ctx : CoapServer) (known : ℕ → Bool) (answers : List CoapServerNextEvent) : Bool :=
  (sendTarget known answers).any ctx.isClosing

theorem known_of_sendTarget {known : ℕ → Bool} {answers : List CoapServerNextEvent}
    (h : sendTarget known answers = some c) : known c = true := by
  induction answers with
  | nil => cases h
  | cons answer answers ih =>
    cases answer with
    | wait | nothing => cases h
    | send connection packet =>
      rw [sendTarget] at h
      cases hknown : connection.filter known with
      | none =>
        rw [hknown] at h
        exact ih h
      | some d =>
        rw [hknown] at h
        cases packet with
        | false => exact ih h
        | true =>
          cases h
          exact (Option.filter_eq_some_iff.mp hknown).2

theorem event_sending (h : ctx.isSending = true) (answers : List CoapServerNextEvent) :
    (ctx.event answers).1 = ctx := by
  cases answers with
  | nil => rfl
  | cons answer answers => cases answer <;> simp [event, h]

theorem event_idle (h : ctx.isSending = false) (answers : List CoapServerNextEvent) :
    (ctx.event answers).1 = (sendTarget ctx.knows answers).elim ctx fun c =>
      ⟨true, ctx.connections.modify c (·.asyncSendData)⟩ := by
  induction answers with
  | nil => rfl
  | cons answer answers ih =>
    cases answer with
    | wait | nothing => rfl
    | send connection packet =>
      rw [event, sendTarget, if_neg (by simp [h])]
      cases connection.filter ctx.knows with
      | none => exact ih
      | some c =>
        cases packet with
        | false => exact ih
        | true => rfl

/-- A send that is accepted matches the flag; one that is refused does not. -/
theorem event_matches_iff {s : CoapServer} {known : ℕ → Bool} {answers : List CoapServerNextEvent}
    (h : s.FlagMatches)
    (hknown : s.knows = known) (hclosing : ∀ d, known d = true → s.isClosing d = ctx.isClosing d) :
    (s.event answers).1.FlagMatches ↔ (!s.isSending && ctx.refusesSend known answers) = false := by
  cases hsending : s.isSending with
  | true =>
    rw [event_sending hsending]
    exact ⟨fun _ => rfl, fun _ => h⟩
  | false =>
    rw [event_idle hsending, hknown, refusesSend]
    cases htarget : sendTarget known answers with
    | none => exact ⟨fun _ => rfl, fun _ => h⟩
    | some c =>
      have hc := known_of_sendTarget htarget
      have hnone : s.outstanding = 0 := by simpa [FlagMatches, hsending] using h
      rw [Option.any_some, ← hclosing c hc]
      rw [← hknown] at hc
      cases hcc : s.connections[c]? with
      | none => simp [knows, hcc] at hc
      | some cc =>
        rw [outstanding, Tally.sum_map_split _ hcc] at hnone
        rw [FlagMatches, Option.elim_some, outstanding, Tally.sum_map_modify _ hcc]
        by_cases hstate : cc.conn.dtls.state = .closing
        · simp [isClosing, hcc, CoapConnection.asyncSendData, hstate]
          omega
        · simp [isClosing, hcc, CoapConnection.asyncSendData, hstate, List.count_append]
          omega

/-- Without a send of the CoAP server in the list, nothing is called back. -/
theorem flush_eq_self (ctx : CoapServer) {sends : List Bool} (h : sends.count true = 0)
    (answers : List CoapServerNextEvent) : ctx.flush sends answers = ctx := by
  induction sends with
  | nil => rfl
  | cons send sends ih =>
    cases send with
    | true => simp at h
    | false => exact ih (by simpa using h)

theorem flush_eq_event (ctx : CoapServer) {sends : List Bool} (h : sends.count true = 1)
    (answers : List CoapServerNextEvent) :
    ctx.flush sends answers = (ctx.sendToCallback answers).1 := by
  induction sends with
  | nil => simp at h
  | cons send sends ih =>
    cases send with
    | true => exact flush_eq_self _ (by simpa using h) _
    | false => exact ih (by simpa using h)

/-- The connection at `c` is replaced. -/
theorem outstanding_set (h : ctx.connections[c]? = some cc) (cc' : CoapConnection)
    (isSending : Bool) :
    outstanding ⟨isSending, ctx.connections.set c cc'⟩ + cc.coapSends.count true =
      ctx.outstanding + cc'.coapSends.count true := by
  rw [outstanding, outstanding, Tally.sum_map_set _ h, Tally.sum_map_split _ h]
  omega

theorem knows_set (h : ctx.connections[c]? = some cc) (cc' : CoapConnection) (isSending : Bool)
    (d : ℕ) :
    knows ⟨isSending, ctx.connections.set c cc'⟩ d = if d = c then cc'.inCoap else ctx.knows d := by
  obtain ⟨hlt, -⟩ := List.getElem?_eq_some_iff.mp h
  by_cases hd : d = c
  · subst hd
    simp [knows, List.getElem?_set_self hlt]
  · simp [knows, List.getElem?_set_ne (Ne.symm hd), hd]

theorem isClosing_set (cc' : CoapConnection) (isSending : Bool) {d : ℕ} (hd : d ≠ c) :
    isClosing ⟨isSending, ctx.connections.set c cc'⟩ d = ctx.isClosing d := by
  simp [isClosing, List.getElem?_set_ne (Ne.symm hd)]

theorem isClosing_set_same {cc' : CoapConnection} (h : ctx.connections[c]? = some cc)
    (hstate : cc'.conn.dtls.state = cc.conn.dtls.state) (isSending : Bool) (d : ℕ) :
    isClosing ⟨isSending, ctx.connections.set c cc'⟩ d = ctx.isClosing d := by
  obtain ⟨hlt, -⟩ := List.getElem?_eq_some_iff.mp h
  by_cases hd : d = c
  · subst hd
    simp [isClosing, List.getElem?_set_self hlt, h, hstate]
  · exact isClosing_set cc' isSending hd

end CoapServer

/-- A connection that hands data on stays in `DATA`. -/
theorem doOne_state_of_data {conn : NcClientConnection} {env : SrvEnv} {buffer : List UInt8}
    (h : doOneData conn env = some buffer) :
    conn.dtls.state = .data ∧ (nmMbedtlsSrvDoOne conn env).dtls.state = .data := by
  unfold doOneData at h
  cases hstate : conn.dtls.state with
  | connecting | closing => simp [hstate] at h
  | data =>
    cases hread : env.read with
    | eof | wantReadWrite | closeNotify | error => simp [hstate, hread] at h
    | data sequence data =>
      obtain ⟨-, hsends, -⟩ := mbedtlsSends_only conn env
      rw [nmMbedtlsSrvDoOne, hstate, hread]
      dsimp only
      rw [handleData_state]
      exact ⟨rfl, hsends.trans hstate⟩

theorem state_of_receivedData {conn conn' : NcClientConnection} {e : ClientConnectionEvent}
    {buffer : List UInt8} (hs : clientConnectionStep conn e = some conn')
    (h : receivedData conn e = some buffer) :
    conn.dtls.state = .data ∧ conn'.dtls.state = .data := by
  cases clientConnectionCase_of_step hs with
  | startSend | deferredEvent | closeEvent | close | keepAliveEvent | sendData => cases h
  | packet sock ep packet env =>
    obtain ⟨hrendezvous, hdata⟩ := Option.ite_none_left_eq_some.mp h
    have hseen : (conn.seenOn (packet.getD 15 0) sock ep).dtls = conn.dtls := by
      unfold NcClientConnection.seenOn
      split_ifs <;> rfl
    have hone : doOneData { conn.seenOn (packet.getD 15 0) sock ep with
        dtls := { (conn.seenOn (packet.getD 15 0) sock ep).dtls with
          currentChannelId := packet.getD 15 0,
            channelId := packet.getD 15 0 } } env = some buffer := by
      rw [hseen]
      exact hdata
    rw [ncClientConnectionHandlePacket, if_neg hrendezvous]
    exact ⟨(doOne_state_of_data hdata).1, (doOne_state_of_data hone).2⟩
  | timer env => exact doOne_state_of_data h
  | @udpDone channel rest ok env hsends =>
    obtain ⟨hsent, hdata⟩ := Option.ite_none_right_eq_some.mp h
    obtain ⟨hcb, rfl⟩ := Bool.and_eq_true_iff.mp hsent
    have hstate := (doOne_state_of_data hdata).1
    have hone : doOneData { conn with
        udpSends := rest, sentCb := false, dtls := { conn.dtls with sending := false } } env =
        some buffer := hdata
    refine ⟨hstate, ?_⟩
    rw [ncClientConnectionSendToUdpCb, if_neg (by simp [hcb]), nmMbedtlsSrvConnectionSendCallback,
      if_neg (by simp), if_neg (by simp [hstate])]
    exact (doOne_state_of_data hone).2

end NabtoDevice
