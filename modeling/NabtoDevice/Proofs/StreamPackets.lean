import NabtoDevice.Spec.StreamPackets
import Mathlib.Data.List.Basic
import Mathlib.Tactic.Common

/-! The bounds of the header of a stream packet. The length check of the manager covers a
stream id of one or two bytes and the flags after it; a longer id is checked by its decoder,
which does not know that a byte has to follow. -/

namespace NabtoDevice

theorem take_eq_range_map {α : Type*} (xs : List α) (d : α) {k : ℕ} (h : k ≤ xs.length) :
    xs.take k = (List.range k).map fun i => xs[i]?.getD d := by
  refine List.ext_getElem (by simp [h]) fun i hi _ => ?_
  have hlt : i < xs.length := by
    rw [List.length_take] at hi
    omega
  simp [hlt]

/-- On the bytes of a packet the decoder is `varUintRead`. -/
theorem varUintReads_eq (buf : ℕ → UInt8) (bytes : List UInt8) (d : UInt8) (hbytes : bytes ≠ [])
    (hbuf : ∀ i, buf i = bytes[i]?.getD d) :
    (varUintReads buf bytes.length).2 = varUintRead bytes := by
  cases bytes with
  | nil => exact absurd rfl hbytes
  | cons first rest =>
    have hfirst : buf 0 = first := hbuf 0
    simp only [varUintReads, varUintRead, hfirst, List.length_cons]
    split_ifs with hshort
    · rfl
    · have hrest : rest.take (2 ^ (first >>> 6).toNat - 1) =
          (List.range (2 ^ (first >>> 6).toNat - 1)).map fun i => buf (i + 1) := by
        rw [take_eq_range_map rest d (by omega)]
        refine List.map_congr_left fun i _ => ?_
        rw [hbuf (i + 1), List.getElem?_cons_succ]
      rw [hrest, List.foldl_map]

variable {packet : StreamPacket}

namespace StreamPacket

/-- The header by which the manager handles a packet is what is read here. -/
theorem header_eq (h : 4 ≤ packet.buffer.length) :
    packet.header = (varUintReads (fun i => packet.byte (1 + i)) (packet.buffer.length - 1)).2.map
      fun (streamId, streamIdLen) => (streamId, packet.byte (1 + streamIdLen)) := by
  have htail : packet.buffer.tail ≠ [] := by
    rw [← List.length_pos_iff_ne_nil, List.length_tail]
    omega
  have hread := varUintReads_eq
    (fun i => packet.byte (1 + i)) packet.buffer.tail packet.beyond htail
    fun i => by rw [byte, List.getElem?_tail, Nat.add_comm]
  rw [List.length_tail] at hread
  rw [header, if_neg (by omega), hread]
  refine congrArg (Option.map · _) (funext fun (streamId, streamIdLen) => ?_)
  dsimp only
  rw [byte, List.headD_eq_head?_getD, List.head?_drop]

def streamIdLen (packet : StreamPacket) : ℕ := 2 ^ (packet.byte 1 >>> 6).toNat

/-- The packet is long enough to be handled, and ends with the stream id. -/
def endsAfterStreamId (packet : StreamPacket) : Bool :=
  4 ≤ packet.buffer.length && packet.buffer.length = 1 + packet.streamIdLen

structure UsedWithin (packet : StreamPacket) (use : StreamPacketUse) : Prop where
  reads : ∀ i ∈ use.reads, i < packet.buffer.length
  passed : ∀ n, use.passed = some n →
    1 ≤ n ∧ n = (packet.buffer.drop (1 + packet.streamIdLen)).length

/-- The offsets and the length of a packet whose stream id is complete. -/
theorem streamPacketUse_eq (flags : NabtoStreamFlags) (ctx : NcStreamManager)
    (conn connectionRef : ℕ)
    (hlong : 4 ≤ packet.buffer.length) (hid : packet.streamIdLen ≤ packet.buffer.length - 1) :
    ∃ slot : Option (ℕ × NcStreamManager), streamPacketUse flags ctx conn connectionRef packet =
      ⟨0 :: (List.range packet.streamIdLen).map (1 + ·) ++ [1 + packet.streamIdLen],
        slot.map fun _ => packet.buffer.length - (1 + packet.streamIdLen)⟩ := by
  unfold streamPacketUse varUintReads
  rw [if_neg (by omega), if_neg (by simpa [streamIdLen] using hid)]
  exact ⟨_, rfl⟩

/-- A packet that is too short, or whose stream id is. -/
theorem streamPacketUse_short (flags : NabtoStreamFlags) (ctx : NcStreamManager)
    (conn connectionRef : ℕ)
    (hshort : 4 ≤ packet.buffer.length → packet.buffer.length - 1 < packet.streamIdLen) :
    (streamPacketUse flags ctx conn connectionRef packet).passed = none ∧
      ∀ i ∈ (streamPacketUse flags ctx conn connectionRef packet).reads,
        i = 0 ∨ i = 1 ∧ 4 ≤ packet.buffer.length := by
  unfold streamPacketUse varUintReads
  by_cases hlong : packet.buffer.length < 4
  · rw [if_pos hlong]
    exact ⟨rfl, fun i hi => Or.inl (by simpa using hi)⟩
  · rw [if_neg hlong, if_pos (by simpa [streamIdLen] using hshort (by omega))]
    refine ⟨rfl, fun i hi => ?_⟩
    rcases List.mem_cons.mp hi with rfl | hi
    · exact Or.inl rfl
    · exact Or.inr ⟨by simpa using hi, by omega⟩

end StreamPacket

/-- A packet of at least one byte is read within its bounds, and the rest of it that is
passed to the stream is all that follows the stream id and not empty, if and only if the
packet does not end with the stream id. -/
theorem stream_packet_within_iff (flags : NabtoStreamFlags) (ctx : NcStreamManager)
    (conn connectionRef : ℕ) {packet : StreamPacket} (hpacket : 1 ≤ packet.buffer.length) :
    packet.UsedWithin (streamPacketUse flags ctx conn connectionRef packet) ↔
      packet.endsAfterStreamId = false := by
  by_cases hfits : 4 ≤ packet.buffer.length ∧ packet.streamIdLen ≤ packet.buffer.length - 1
  · obtain ⟨hlong, hid⟩ := hfits
    obtain ⟨slot, heq⟩ := StreamPacket.streamPacketUse_eq flags ctx conn connectionRef hlong hid
    rw [heq]
    have hends : packet.endsAfterStreamId = false ↔
        packet.streamIdLen + 1 < packet.buffer.length := by
      simp only [StreamPacket.endsAfterStreamId, Bool.and_eq_false_iff, decide_eq_false_iff_not]
      omega
    rw [hends]
    constructor
    · intro h
      -- the flags are read behind the stream id
      have hread := h.reads (1 + packet.streamIdLen) (by simp)
      omega
    · intro hlt
      refine ⟨fun i hi => ?_, fun n hn => ?_⟩
      · simp only [List.cons_append, List.mem_cons, List.mem_append, List.mem_map, List.mem_range,
          List.not_mem_nil, or_false] at hi
        rcases hi with rfl | ⟨j, hj, rfl⟩ | rfl <;> omega
      · obtain ⟨_, -, rfl⟩ := Option.map_eq_some_iff.mp hn
        rw [List.length_drop]
        omega
  · have hends : packet.endsAfterStreamId = false := by
      simp only [StreamPacket.endsAfterStreamId, Bool.and_eq_false_iff, decide_eq_false_iff_not]
      omega
    refine ⟨fun _ => hends, fun _ => ?_⟩
    have hshort : 4 ≤ packet.buffer.length →
      packet.buffer.length - 1 < packet.streamIdLen := by omega
    obtain ⟨hpassed, hreads⟩ :=
      StreamPacket.streamPacketUse_short flags ctx conn connectionRef hshort
    refine ⟨fun i hi => ?_, fun n hn => ?_⟩
    · rcases hreads i hi with rfl | ⟨rfl, hlong⟩ <;> omega
    · rw [hpassed] at hn
      cases hn

def synPacket : StreamPacket := ⟨[0x05, 0x02, 0x01, 0x00], 0, true, true, []⟩

theorem stream_packet_within_syn :
    1 ≤ synPacket.buffer.length ∧
      synPacket.UsedWithin (streamPacketUse ⟨1, 4⟩ (ncStreamManagerInit 1) 0 0 synPacket) ∧
      (streamPacketUse ⟨1, 4⟩ (ncStreamManagerInit 1) 0 0 synPacket).passed = some 2 :=
  ⟨by decide, (stream_packet_within_iff ⟨1, 4⟩ (ncStreamManagerInit 1) 0 0 (by decide)).mpr
    (by decide), by decide⟩

/-- Five bytes of which four are the stream id. The flags are read behind the packet, and if
there is a SYN the new stream is given a packet of length 0. -/
theorem flags_behind_packet :
    (5 ∈ (streamPacketUse ⟨1, 4⟩ (ncStreamManagerInit 1) 0 0
        ⟨[0x05, 0x80, 0x00, 0x00, 0x02], 1, true, true, []⟩).reads ∧
      (streamPacketUse ⟨1, 4⟩ (ncStreamManagerInit 1) 0 0
        ⟨[0x05, 0x80, 0x00, 0x00, 0x02], 1, true, true, []⟩).passed = some 0) := by
  decide

end NabtoDevice
