import NabtoDevice.Spec.Stream

/-! The stream manager of `src/core/nc_stream_manager.c`. A slot pairs `streams[i]`
with `streamConns[i]`; connections are numbered by their address, which a later
connection may get again. `deliveries` records each packet and each
connection-closed event a slot is given, with whether the slot was active then. -/

namespace NabtoDevice

/-- The flag bytes of the streaming protocol the manager looks at. -/
structure NabtoStreamFlags where
  syn : UInt8
  rst : UInt8
  deriving DecidableEq, Repr

structure StreamSlot where
  stream : NcStreamContext
  conn : Option ℕ
  deriving DecidableEq, Repr

inductive DeliveryKind
  | packet
  | connectionClosed
  deriving DecidableEq, Repr

structure Delivery where
  kind : DeliveryKind
  slot : ℕ
  active : Bool
  deriving DecidableEq, Repr

structure NcStreamManager where
  slots : List StreamSlot
  listeners : List ℕ
  rstBuf : Bool
  deliveries : List Delivery
  deriving DecidableEq, Repr

/-- `nc_stream_manager_init` on the zeroed context with `maxStreams` slots. -/
def ncStreamManagerInit (maxStreams : ℕ) : NcStreamManager where
  slots := List.replicate maxStreams ⟨ncStreamUnused, none⟩
  listeners := []
  rstBuf := false
  deliveries := []

def ncStreamManagerPortInUse (ctx : NcStreamManager) (type : ℕ) : Bool :=
  decide (type ∈ ctx.listeners)

/-- `nc_stream_manager_get_ephemeral_stream_port` with the ten numbers `rand` returns. -/
def ncStreamManagerGetEphemeralStreamPort (ctx : NcStreamManager) (draws : Fin 10 → UInt32) :
    Option ℕ :=
  ((List.finRange 10).map fun i => 0x80000000 + (draws i &&& 0x7FFFFFFF).toNat).find?
    fun port => !ncStreamManagerPortInUse ctx port

def ncStreamManagerAddListener (ctx : NcStreamManager) (type : ℕ) (draws : Fin 10 → UInt32) :
    NpErrorCode × NcStreamManager :=
  match if type = 0 then ncStreamManagerGetEphemeralStreamPort ctx draws else some type with
  | none => (.unknown, ctx)
  | some type =>
    if ncStreamManagerPortInUse ctx type then (.operationInProgress, ctx)
    else (.ok, { ctx with listeners := ctx.listeners ++ [type] })

def ncStreamManagerRemoveListener (ctx : NcStreamManager) (type : ℕ) : NcStreamManager :=
  { ctx with listeners := ctx.listeners.erase type }

/-- The index of the slot `nc_stream_manager_find_stream` returns. -/
def ncStreamManagerFindStream (ctx : NcStreamManager) (streamId conn : ℕ) : Option ℕ :=
  ctx.slots.findIdx? fun slot => decide (slot.stream.streamId = streamId ∧ slot.conn = some conn)

/-- `nc_stream_manager_accept_stream`; `created` says whether the events of the stream
can be created. -/
def ncStreamManagerAcceptStream (ctx : NcStreamManager) (conn connectionRef streamId : ℕ)
    (created : Bool) : Option (ℕ × NcStreamManager) :=
  if streamId % 2 = 1 then none
  else
    match ctx.slots.findIdx? fun slot => !slot.stream.active with
    | none => none
    | some i =>
      if created then
        some (i, { ctx with slots := ctx.slots.modify i fun slot =>
          ⟨ncStreamInit slot.stream streamId conn connectionRef, some conn⟩ })
      else none

/-- `nc_stream_manager_send_rst`; `allocated` says whether there is a buffer for it. -/
def ncStreamManagerSendRst (ctx : NcStreamManager) (allocated : Bool) : NcStreamManager :=
  if ctx.rstBuf then ctx else { ctx with rstBuf := allocated }

def ncStreamManagerSendRstCallback (ctx : NcStreamManager) : NcStreamManager :=
  { ctx with rstBuf := false }

/-- Slot `i` is given a packet or the end of its connection. -/
def NcStreamManager.deliver (ctx : NcStreamManager) (kind : DeliveryKind) (i : ℕ)
    (handle : NcStreamContext → NcStreamContext) : NcStreamManager :=
  match ctx.slots[i]? with
  | none => ctx
  | some slot =>
    { ctx with
      slots := ctx.slots.modify i fun slot => { slot with stream := handle slot.stream }
      deliveries := ctx.deliveries ++ [⟨kind, i, slot.stream.active⟩] }

/-- A decrypted stream packet, the byte behind it in the receive buffer, and what the
libraries answer while it is handled. -/
structure StreamPacket where
  buffer : List UInt8
  beyond : UInt8
  created : Bool
  allocated : Bool
  answers : List NabtoStreamNextEvent
  deriving DecidableEq, Repr

/-- The stream id and the flags of a packet, if it is long enough to be handled. -/
def StreamPacket.header (packet : StreamPacket) : Option (ℕ × UInt8) :=
  if packet.buffer.length < 4 then none
  else (varUintRead packet.buffer.tail).map fun (streamId, streamIdLen) =>
    (streamId, (packet.buffer.drop (1 + streamIdLen)).headD packet.beyond)

/-- The slot a packet is given to: the one found or, for a SYN, the one accepted. -/
def ncStreamManagerSlotFor (flags : NabtoStreamFlags) (ctx : NcStreamManager)
    (conn connectionRef : ℕ)
    (streamId : ℕ) (packetFlags : UInt8) (created : Bool) : Option (ℕ × NcStreamManager) :=
  match ncStreamManagerFindStream ctx streamId conn with
  | some i => some (i, ctx)
  | none =>
    if packetFlags = flags.syn then
      ncStreamManagerAcceptStream ctx conn connectionRef streamId created
    else none

def ncStreamManagerHandlePacket (flags : NabtoStreamFlags) (ctx : NcStreamManager)
    (conn connectionRef : ℕ) (packet : StreamPacket) : NcStreamManager :=
  match packet.header with
  | none => ctx
  | some (streamId, packetFlags) =>
    match ncStreamManagerSlotFor flags ctx conn connectionRef streamId packetFlags packet.created with
    | some (i, ctx) =>
      ctx.deliver .packet i fun stream => ncStreamHandlePacket ctx.listeners stream packet.answers
    | none =>
      if packetFlags &&& flags.rst ≠ flags.rst then ncStreamManagerSendRst ctx packet.allocated
      else ctx

/-- `nc_stream_manager_remove_connection` at slot `i`. -/
def removeConnectionAt (ctx : NcStreamManager) (conn : ℕ) (answers : ℕ → List NabtoStreamNextEvent)
    (i : ℕ) : NcStreamManager :=
  if (ctx.slots[i]?.bind (·.conn)) = some conn then
    { ctx with slots := ctx.slots.modify i fun slot => { slot with conn := none } }.deliver
      .connectionClosed i fun stream =>
        ncStreamHandleConnectionClosed ctx.listeners stream (answers i)
  else ctx

def ncStreamManagerRemoveConnection (ctx : NcStreamManager) (conn : ℕ)
    (answers : ℕ → List NabtoStreamNextEvent) : NcStreamManager :=
  (List.range ctx.slots.length).foldl (fun ctx i => removeConnectionAt ctx conn answers i) ctx

/-- Another step of the stream in slot `i`. -/
def NcStreamManager.update (ctx : NcStreamManager) (i : ℕ)
    (handle : NcStreamContext → NcStreamContext) : NcStreamManager :=
  { ctx with slots := ctx.slots.modify i fun slot => { slot with stream := handle slot.stream } }

inductive StreamManagerEvent
  | packet (conn connectionRef : ℕ) (packet : StreamPacket)
  | removeConnection (conn : ℕ) (answers : ℕ → List NabtoStreamNextEvent)
  | queue (i : ℕ) (answers : List NabtoStreamNextEvent)
  | dtlsSent (i : ℕ) (answers : List NabtoStreamNextEvent)
  | op (i : ℕ) (op : StreamOp)
  | rstSent
  | addListener (type : ℕ) (draws : Fin 10 → UInt32)
  | removeListener (type : ℕ)

def streamManagerStep (flags : NabtoStreamFlags) (ctx : NcStreamManager) :
    StreamManagerEvent → Option NcStreamManager
  | .packet conn connectionRef packet =>
    some (ncStreamManagerHandlePacket flags ctx conn connectionRef packet)
  | .removeConnection conn answers => some (ncStreamManagerRemoveConnection ctx conn answers)
  | .queue i answers =>
    (ctx.slots[i]?.filter (·.stream.active)).map fun _ =>
      ctx.update i fun stream => ncStreamEvent ctx.listeners stream answers
  | .dtlsSent i answers =>
    (ctx.slots[i]?.filter (·.stream.dtlsSends ≠ [])).map fun _ =>
      ctx.update i fun stream => ncStreamDtlsSendCallback ctx.listeners stream answers
  | .op i op => ctx.slots[i]?.map fun _ => ctx.update i fun stream => (ncStreamOp stream op).2
  | .rstSent => if ctx.rstBuf then some (ncStreamManagerSendRstCallback ctx) else none
  | .addListener type draws => some (ncStreamManagerAddListener ctx type draws).2
  | .removeListener type => some (ncStreamManagerRemoveListener ctx type)

def streamManager (flags : NabtoStreamFlags) (maxStreams : ℕ) :
    Machine NcStreamManager StreamManagerEvent :=
  ⟨ncStreamManagerInit maxStreams, streamManagerStep flags⟩

end NabtoDevice
