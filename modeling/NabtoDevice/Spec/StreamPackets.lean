import NabtoDevice.Spec.StreamManager

/-! The bytes that `nc_stream_manager_handle_packet` (`src/core/nc_stream_manager.c`) and
`var_uint_read` (`src/core/nc_packet.c`) read from a packet, and the length that is passed on
to the stream. -/

namespace NabtoDevice

/-- `var_uint_read` on the memory from `buf` on: the offsets it reads, the value and its
length. -/
def varUintReads (buf : ℕ → UInt8) (bufSize : ℕ) : List ℕ × Option (ℕ × ℕ) :=
  let first := buf 0
  let b7 := (first &&& 0x3F).toNat
  let lengthBits := (first >>> 6).toNat
  let len := 2 ^ lengthBits
  if bufSize < len then ([0], none)
  else
    (List.range len,
      some ((List.range (len - 1)).foldl (fun val i => val * 256 + (buf (i + 1)).toNat) b7, len))

/-- The memory from the start of the packet on. -/
def StreamPacket.byte (packet : StreamPacket) (i : ℕ) : UInt8 :=
  packet.buffer[i]?.getD packet.beyond

structure StreamPacketUse where
  /-- Offsets from the start of the packet. -/
  reads : List ℕ
  /-- The length given to `nc_stream_handle_packet`, if a stream is found or accepted. -/
  passed : Option ℕ
  deriving DecidableEq, Repr

/-- `nc_stream_manager_handle_packet`. The application type is read for the log. -/
def streamPacketUse (flags : NabtoStreamFlags) (ctx : NcStreamManager) (conn connectionRef : ℕ)
    (packet : StreamPacket) : StreamPacketUse :=
  let bufferSize := packet.buffer.length
  if bufferSize < 4 then ⟨[0], none⟩
  else
    match varUintReads (fun i => packet.byte (1 + i)) (bufferSize - 1) with
    | (reads, none) => ⟨0 :: reads.map (1 + ·), none⟩
    | (reads, some (streamId, streamIdLen)) =>
      let ptr := 1 + streamIdLen
      let packetFlags := packet.byte ptr
      let stream :=
        ncStreamManagerSlotFor flags ctx conn connectionRef streamId packetFlags packet.created
      ⟨0 :: reads.map (1 + ·) ++ [ptr], stream.map fun _ => bufferSize - ptr⟩

end NabtoDevice
