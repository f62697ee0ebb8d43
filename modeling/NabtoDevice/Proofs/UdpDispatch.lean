import NabtoDevice.Spec.UdpDispatch
import NabtoDevice.Sanity.ClientConnectionDispatch

/-! The reads of the functions that dispatch a datagram, compared with its length. Only
the test for a rendezvous request looks at the length; every other read is inside the
datagram exactly if it is long enough. -/

namespace NabtoDevice

variable {d : Datagram}

theorem bufferSize_toNat (d : Datagram) : d.bufferSize.toNat = d.bytes.length :=
  UInt16.toNat_ofNat_of_lt' d.small

theorem seventeen_le_bufferSize (d : Datagram) : d.bufferSize ≥ 17 ↔ 17 ≤ d.bytes.length := by
  rw [ge_iff_le, UInt16.le_iff_toNat_le, bufferSize_toNat]
  rfl

theorem payloadLength_toNat (h : 16 ≤ d.bytes.length) :
    (d.bufferSize - 16).toNat + 16 = d.bytes.length := by
  have hle : (16 : UInt16) ≤ d.bufferSize := by
    rw [UInt16.le_iff_toNat_le, bufferSize_toNat]
    exact h
  rw [UInt16.toNat_sub_of_le _ _ hle, bufferSize_toNat]
  exact Nat.sub_add_cancel h

theorem payload_safe_iff (d : Datagram) :
    (Traced.readBlock d.mem 16 (d.bufferSize.toNat - 16)).Safe d.bytes.length ↔
      16 ≤ d.bytes.length := by
  rw [Traced.safe_readBlock, bufferSize_toNat]
  omega

theorem isRendezvousRequest_safe (d : Datagram) : (isRendezvousRequest d).Safe d.bytes.length := by
  unfold isRendezvousRequest
  split
  · next hsize =>
    have hlen := (seventeen_le_bufferSize d).mp hsize
    rw [Traced.safe_bind, Traced.safe_readPlace]
    refine ⟨by omega, ?_⟩
    split
    · rw [Traced.safe_bind, Traced.safe_readPlace]
      exact ⟨by omega, Traced.safe_pure _⟩
    · exact Traced.safe_pure _
  · exact Traced.safe_pure _

theorem length_of_isRendezvousRequest (h : (isRendezvousRequest d).val = true) :
    17 ≤ d.bytes.length := by
  unfold isRendezvousRequest at h
  split at h
  · next hsize => exact (seventeen_le_bufferSize d).mp hsize
  · cases h

theorem getElem?_eq_mem {i : ℕ} (h : i < d.bytes.length) : d.bytes[i]? = some (d.mem i) := by
  simp [Datagram.mem, h]

theorem isRendezvousRequest_val (d : Datagram) :
    (isRendezvousRequest d).val = true ↔
      d.bytes[0]? = some nabtoProtocolPrefixRendezvous ∧
        d.bytes[16]? = some ctRendezvousClientRequest := by
  unfold isRendezvousRequest
  split
  · next hsize =>
    have hlen := (seventeen_le_bufferSize d).mp hsize
    rw [getElem?_eq_mem (by omega), getElem?_eq_mem (by omega), Traced.val_bind]
    by_cases hfirst : d.mem 0 = nabtoProtocolPrefixRendezvous <;> simp [hfirst]
  · next hsize =>
    have hlen : d.bytes.length ≤ 16 := by
      have := mt (seventeen_le_bufferSize d).mpr hsize
      omega
    simp [List.getElem?_eq_none hlen]

/-- On a datagram that holds a connection id the function on the receive buffer does what
the one on the bytes of the datagram does. -/
theorem handlePacketInBuffer_eq (conn : NcClientConnection) (sock ep : ℕ) (env : SrvEnv)
    (h : 16 ≤ d.bytes.length) :
    (handlePacketInBuffer conn sock ep d env).val.1 =
      ncClientConnectionHandlePacket conn sock ep d.bytes env := by
  have hchannel : d.bytes.getD 15 0 = d.mem 15 := by
    rw [List.getD_eq_getElem?_getD, getElem?_eq_mem (by omega), Option.getD_some]
  simp only [handlePacketInBuffer, ncClientConnectionHandlePacket, Traced.val_bind, hchannel,
    isRendezvousRequest_val]
  split <;> rfl

theorem handlePacketInBuffer_safe_iff (conn : NcClientConnection) (sock ep : ℕ) (d : Datagram)
    (env : SrvEnv) :
    (handlePacketInBuffer conn sock ep d env).Safe d.bytes.length ↔ 16 ≤ d.bytes.length := by
  unfold handlePacketInBuffer
  rw [Traced.safe_bind]
  cases hr : (isRendezvousRequest d).val with
  | true =>
    have hlen := length_of_isRendezvousRequest hr
    exact iff_of_true ⟨isRendezvousRequest_safe d, Traced.safe_pure _⟩ (by omega)
  | false =>
    simp only [isRendezvousRequest_safe, Bool.false_eq_true, ↓reduceIte, Traced.safe_bind,
      Traced.safe_readPlace, payload_safe_iff, Traced.safe_pure, and_true, true_and]
    omega

variable {len : UInt16}

theorem handlePacketInBuffer_payload {conn : NcClientConnection} {sock ep : ℕ} {env : SrvEnv}
    (hlen : 16 ≤ d.bytes.length) (h : (handlePacketInBuffer conn sock ep d env).val.2 = some len) :
    len.toNat + 16 = d.bytes.length := by
  simp only [handlePacketInBuffer, Traced.val_bind] at h
  split at h
  · cases h
  · cases h
    exact payloadLength_toNat hlen

theorem openInBuffer_safe (ref : Option UInt64) (sock ep : ℕ) (env : OpenEnv)
    (h : 16 ≤ d.bytes.length) : (openInBuffer ref sock ep d env).Safe d.bytes.length := by
  unfold openInBuffer
  rw [Traced.safe_bind, Traced.safe_readBlock]
  refine ⟨by omega, ?_⟩
  cases ref with
  | none => exact Traced.safe_pure _
  | some ref =>
    dsimp only
    split
    · exact Traced.safe_pure _
    · rw [Traced.safe_bind, payload_safe_iff]
      exact ⟨h, Traced.safe_pure _⟩

theorem openInBuffer_payload {ref : Option UInt64} {sock ep : ℕ} {env : OpenEnv}
    {c : DispatchedConnection}
    (hlen : 16 ≤ d.bytes.length) (h : (openInBuffer ref sock ep d env).val = some (c, len)) :
    len.toNat + 16 = d.bytes.length := by
  cases ref with
  | none => cases h
  | some ref =>
    simp only [openInBuffer, Traced.val_bind] at h
    split at h
    · cases h
    · obtain ⟨-, rfl⟩ := Prod.mk.inj (Option.some.inj h)
      exact payloadLength_toNat hlen

variable (ctx : ClientConnectionDispatch)

theorem dispatchUnknown_safe_iff (sock ep : ℕ) (d : Datagram) (env : OpenEnv) :
    (dispatchUnknown ctx sock ep d env).Safe d.bytes.length ↔ 17 ≤ d.bytes.length := by
  unfold dispatchUnknown
  rw [Traced.safe_bind, Traced.safe_readPlace]
  constructor
  · intro h
    exact h.1
  · intro h
    refine ⟨h, ?_⟩
    split
    · split
      · exact Traced.safe_pure _
      · rw [Traced.safe_bind]
        refine ⟨openInBuffer_safe _ sock ep env (by omega), ?_⟩
        split <;> exact Traced.safe_pure _
    · exact Traced.safe_pure _

theorem dispatchUnknown_payload {ctx : ClientConnectionDispatch} {sock ep : ℕ} {env : OpenEnv}
    (hlen : 16 ≤ d.bytes.length) (h : (dispatchUnknown ctx sock ep d env).val.2 = some len) :
    len.toNat + 16 = d.bytes.length := by
  simp only [dispatchUnknown, Traced.val_bind] at h
  split at h
  · split at h
    · cases h
    · simp only [Traced.val_bind] at h
      split at h
      · cases h
      · next hopen =>
        cases h
        exact openInBuffer_payload hlen hopen
  · cases h

/-- Among the packets for the client connections those of a known connection must hold the
connection id, and all others one byte more. -/
theorem dispatchHandlePacket_safe_iff (sock ep : ℕ) (d : Datagram) (env : OpenEnv) :
    (ncClientConnectionDispatchHandlePacket ctx sock ep d env).Safe d.bytes.length ↔
      16 ≤ d.bytes.length ∧ (knows ctx.elms d = true ∨ 17 ≤ d.bytes.length) := by
  have hknows := findConnection_isNone (d := d) ctx.elms 0
  unfold ncClientConnectionDispatchHandlePacket
  rw [Traced.safe_bind, findConnection_safe_iff]
  cases hfound : (findConnection d ctx.elms 0).val with
  | some found =>
    have hk : knows ctx.elms d = true := by simpa [hfound] using hknows
    simp only [Traced.safe_bind, handlePacketInBuffer_safe_iff, Traced.safe_pure, hk, and_true,
      true_or]
    constructor
    · intro h
      exact h.2
    · intro h
      exact ⟨fun _ => by omega, h⟩
  | none =>
    have hk : knows ctx.elms d = false := by simpa [hfound] using hknows
    simp only [dispatchUnknown_safe_iff, hk, Bool.false_eq_true, false_or]
    constructor
    · intro h
      exact ⟨by omega, h.2⟩
    · intro h
      exact ⟨fun _ => by omega, h.2⟩

theorem dispatchHandlePacket_payload {ctx : ClientConnectionDispatch} {sock ep : ℕ} {env : OpenEnv}
    (hlen : 16 ≤ d.bytes.length)
    (h : (ncClientConnectionDispatchHandlePacket ctx sock ep d env).val.2 = some len) :
    len.toNat + 16 = d.bytes.length := by
  simp only [ncClientConnectionDispatchHandlePacket, Traced.val_bind] at h
  split at h
  · exact handlePacketInBuffer_payload hlen h
  · exact dispatchUnknown_payload hlen h

/-- The datagram is not empty, and if it is one for the client connections it holds a
connection id, and one byte more when no active connection has that id. -/
def longEnough (udp : UdpDispatch) (d : Datagram) : Bool :=
  decide (1 ≤ d.bytes.length) &&
    udp.cliConn.all fun ctx =>
      decide (d.mem 0 < 240) ||
        (decide (16 ≤ d.bytes.length) && (knows ctx.elms d || decide (17 ≤ d.bytes.length)))

/-- The functions that dispatch a datagram read only its bytes, and what they pass on to
DTLS is as long as the rest of the datagram. -/
structure ReadsDatagram (udp : UdpDispatch) (sock ep : ℕ) (d : Datagram) (env : OpenEnv) :
    Prop where
  inside : (ncUdpDispatchHandlePacket udp sock ep d env).Safe d.bytes.length
  payload : ∀ len, (ncUdpDispatchHandlePacket udp sock ep d env).val.2 = some len →
    len.toNat + 16 = d.bytes.length

theorem testFirst_safe_iff (present : Bool) (test : UInt8 → Bool) (d : Datagram) (n : ℕ) :
    (testFirst present test d).Safe n ↔ (present = true → 0 < n) := by
  cases present <;> simp [testFirst]

theorem testFirst_val (present : Bool) (test : UInt8 → Bool) (d : Datagram) :
    (testFirst present test d).val = (present && test (d.mem 0)) := by
  cases present <;> rfl

theorem client_first_byte {b : UInt8} (h : ¬ b < 240) :
    (b == 0 || b == 1) = false ∧ (decide (b ≥ 20) && decide (b ≤ 64)) = false := by
  have hb : 240 ≤ b.toNat := UInt8.le_iff_toNat_le.mp (UInt8.not_lt.mp h)
  have hne (k : UInt8) (hk : k.toNat < 240) : b ≠ k := by
    rintro rfl
    omega
  have hle : ¬ b ≤ 64 := by
    rw [UInt8.le_iff_toNat_le]
    intro h64
    have : b.toNat ≤ 64 := h64
    omega
  simp [hne 0 (by decide), hne 1 (by decide), hle]

theorem undispatched_safe_iff (d : Datagram) (n : ℕ) : (undispatched d).Safe n ↔ 0 < n := by
  simp [undispatched]

theorem dispatchClient_pos {cliConn : Option ClientConnectionDispatch} {sock ep : ℕ} {env : OpenEnv}
    {n : ℕ} (h : (dispatchClient cliConn sock ep d env).Safe n) : 0 < n := by
  cases cliConn with
  | none => exact (undispatched_safe_iff d n).mp h
  | some ctx =>
    simp only [dispatchClient, Traced.safe_bind, Traced.safe_readPlace] at h
    exact h.1

/-- Only the first byte of a packet that is not for the client connections is read. -/
theorem dispatchClient_other {cliConn : Option ClientConnectionDispatch}
    (h : cliConn = none ∨ d.mem 0 < 240) (sock ep : ℕ) (env : OpenEnv) (n : ℕ) :
    ((dispatchClient cliConn sock ep d env).Safe n ↔ 0 < n) ∧
      (dispatchClient cliConn sock ep d env).val.2 = none := by
  cases cliConn with
  | none => exact ⟨undispatched_safe_iff d n, rfl⟩
  | some ctx =>
    have hfirst : ¬ d.mem 0 ≥ 240 := by
      rcases h with h | h
      · cases h
      · exact UInt8.not_le.mpr h
    simp only [dispatchClient, Traced.safe_bind, Traced.safe_readPlace, Traced.val_bind,
      Traced.val_readPlace, hfirst, ↓reduceIte, undispatched_safe_iff, and_self, true_and]
    rfl

theorem dispatchClient_client (h : ¬ d.mem 0 < 240) (sock ep : ℕ) (env : OpenEnv) (n : ℕ) :
    ((dispatchClient (some ctx) sock ep d env).Safe n ↔
        0 < n ∧ (ncClientConnectionDispatchHandlePacket ctx sock ep d env).Safe n) ∧
      (dispatchClient (some ctx) sock ep d env).val.2 =
        (ncClientConnectionDispatchHandlePacket ctx sock ep d env).val.2 := by
  have hfirst : d.mem 0 ≥ 240 := UInt8.not_lt.mp h
  simp only [dispatchClient, Traced.safe_bind, Traced.safe_readPlace, Traced.val_bind,
    Traced.val_readPlace, hfirst, ↓reduceIte, Traced.safe_pure, and_true, Traced.val_pure]

/-- The tests for STUN and DTLS packets read the first byte if their modules are there. -/
theorem udpDispatch_safe_iff (udp : UdpDispatch) (sock ep : ℕ) (d : Datagram) (env : OpenEnv)
    (n : ℕ) :
    (ncUdpDispatchHandlePacket udp sock ep d env).Safe n ↔
      0 < n ∧ ((udp.stun && (d.mem 0 == 0 || d.mem 0 == 1)) = false →
        (udp.attacher && (decide (d.mem 0 ≥ 20) && decide (d.mem 0 ≤ 64))) = false →
          (dispatchClient udp.cliConn sock ep d env).Safe n) := by
  simp only [ncUdpDispatchHandlePacket, Traced.safe_bind, testFirst_safe_iff, testFirst_val]
  cases hstun : udp.stun && (d.mem 0 == 0 || d.mem 0 == 1) with
  | true =>
    have hs : udp.stun = true := (Bool.and_eq_true_iff.mp hstun).1
    simp [hs]
  | false =>
    cases hdtls : udp.attacher && (decide (d.mem 0 ≥ 20) && decide (d.mem 0 ≤ 64)) with
    | true =>
      have ha : udp.attacher = true := (Bool.and_eq_true_iff.mp hdtls).1
      simp only [Bool.false_eq_true, ↓reduceIte, Traced.safe_bind, testFirst_safe_iff,
        testFirst_val, hdtls, Traced.safe_pure, and_true, forall_const, reduceCtorEq, false_imp_iff]
      constructor
      · intro h
        exact h.2 ha
      · intro hn
        exact ⟨fun _ => hn, fun _ => hn⟩
    | false =>
      simp only [Bool.false_eq_true, ↓reduceIte, Traced.safe_bind, testFirst_safe_iff,
        testFirst_val, hdtls, forall_const]
      constructor
      · rintro ⟨-, -, hrest⟩
        exact ⟨dispatchClient_pos hrest, hrest⟩
      · rintro ⟨hn, hrest⟩
        exact ⟨fun _ => hn, fun _ => hn, hrest⟩

variable {udp : UdpDispatch}

/-- Only the last test can pass something on to DTLS. -/
theorem udpDispatch_payload {sock ep : ℕ} {env : OpenEnv}
    (h : (ncUdpDispatchHandlePacket udp sock ep d env).val.2 = some len) :
    (dispatchClient udp.cliConn sock ep d env).val.2 = some len := by
  simp only [ncUdpDispatchHandlePacket, Traced.val_bind] at h
  split at h
  · cases h
  · simp only [Traced.val_bind] at h
    split at h
    · cases h
    · exact h

theorem readsDatagram_other (h : udp.cliConn = none ∨ d.mem 0 < 240) (sock ep : ℕ) (env : OpenEnv) :
    ReadsDatagram udp sock ep d env ↔ 1 ≤ d.bytes.length := by
  obtain ⟨hsafe, hnone⟩ := dispatchClient_other h sock ep env d.bytes.length
  constructor
  · intro hreads
    exact ((udpDispatch_safe_iff udp sock ep d env _).mp hreads.inside).1
  · intro hlen
    refine ⟨(udpDispatch_safe_iff udp sock ep d env _).mpr ⟨hlen, fun _ _ => hsafe.mpr hlen⟩, ?_⟩
    intro len hpayload
    rw [udpDispatch_payload hpayload] at hnone
    cases hnone

theorem readsDatagram_client {ctx : ClientConnectionDispatch} (hctx : udp.cliConn = some ctx)
    (hfirst : ¬ d.mem 0 < 240) (sock ep : ℕ) (env : OpenEnv) :
    ReadsDatagram udp sock ep d env ↔
      16 ≤ d.bytes.length ∧ (knows ctx.elms d = true ∨ 17 ≤ d.bytes.length) := by
  obtain ⟨hstun, hdtls⟩ := client_first_byte hfirst
  obtain ⟨hsafe, hval⟩ := dispatchClient_client ctx hfirst sock ep env d.bytes.length
  have hudp := udpDispatch_safe_iff udp sock ep d env d.bytes.length
  rw [hstun, hdtls, Bool.and_false, Bool.and_false, hctx, hsafe,
    dispatchHandlePacket_safe_iff] at hudp
  constructor
  · intro hreads
    exact ((hudp.mp hreads.inside).2 rfl rfl).2
  · intro h
    have hpos : 0 < d.bytes.length := by omega
    refine ⟨hudp.mpr ⟨hpos, fun _ _ => ⟨hpos, h⟩⟩, ?_⟩
    intro len hpayload
    have hlen := udpDispatch_payload hpayload
    rw [hctx, hval] at hlen
    exact dispatchHandlePacket_payload h.1 hlen

/-- For every dispatcher and every datagram, the functions that dispatch it stay inside it
if and only if it is long enough for its destination. -/
theorem reads_datagram_iff (udp : UdpDispatch) (sock ep : ℕ) (d : Datagram) (env : OpenEnv) :
    ReadsDatagram udp sock ep d env ↔ longEnough udp d = true := by
  cases hctx : udp.cliConn with
  | none =>
    rw [readsDatagram_other (Or.inl hctx)]
    simp [longEnough, hctx]
  | some ctx =>
    by_cases hfirst : d.mem 0 < 240
    · rw [readsDatagram_other (Or.inr hfirst)]
      simp [longEnough, hctx, hfirst]
    · rw [readsDatagram_client hctx hfirst]
      simp only [longEnough, hctx, hfirst, Option.all_some, decide_false, Bool.false_or,
        Bool.and_eq_true, Bool.or_eq_true, decide_eq_true_eq]
      constructor
      · intro h
        exact ⟨by omega, h⟩
      · intro h
        exact h.2

def oneConnection : ClientConnectionDispatch :=
  { ncClientConnectionDispatchInit 10 with
    elms := some ⟨ncClientConnectionOpen (240 :: List.replicate 15 1) 0 0 {}, 1⟩ ::
      List.replicate 9 none }

/-- One byte in a receive buffer that still holds a rendezvous request of the connection. -/
def oneByteDatagram : Datagram where
  bytes := [240]
  stale := fun _ => 1

/-- The datagram is taken for a packet of the connection: the channel is read behind it, and
its length minus 16 is no length. -/
theorem one_byte_datagram_underflows :
    (ncUdpDispatchHandlePacket { cliConn := some oneConnection } 0 0 oneByteDatagram {}).accesses =
        [.place 0, .block 1 14, .place 15, .block 16 (-15)] ∧
      (ncUdpDispatchHandlePacket { cliConn := some oneConnection } 0 0 oneByteDatagram {}).val.2 =
        some 65521 ∧
      ¬ ReadsDatagram { cliConn := some oneConnection } 0 0 oneByteDatagram {} := by
  refine ⟨by decide +kernel, by decide +kernel, ?_⟩
  intro hreads
  exact absurd hreads.inside (by decide +kernel)

end NabtoDevice
