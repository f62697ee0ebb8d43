import NabtoDevice.Spec.Platform
import NabtoDevice.Lib.Machine

/-! One stream slot of `src/core/nc_stream.c`: the `nc_stream_context` of
`streams[i]`, from `nc_stream_init` to `nc_stream_destroy` and over its reuse.
What the streaming library answers comes with the call: the next event to handle,
the bytes it reads or takes, its status codes. `calls` records the callbacks that
were invoked, `incarnation` counts the streams destroyed in the slot, `offered` and
`released` say what happened to the current stream, and `handedOver` lists the
incarnations that a listener kept. -/

namespace NabtoDevice

inductive NabtoStreamStatus
  | ok
  | closed
  | eof
  | aborted
  | other
  deriving DecidableEq, Repr

def ncStreamStatusToEc : NabtoStreamStatus → NpErrorCode
  | .ok => .ok
  | .closed => .closed
  | .eof => .eof
  | .aborted => .aborted
  | .other => .unknown

/-- The callback functions `nabto_device_stream_*_callback` that callers pass. -/
inductive StreamCallbackKind
  | accept
  | read
  | write
  | close
  deriving DecidableEq, Repr

/-- A callback as one `nc_stream_async_*` call registered it: `id` numbers the
registrations of the slot. -/
structure NcStreamCallback where
  kind : StreamCallbackKind
  userData : ℕ
  id : ℕ
  incarnation : ℕ
  deriving DecidableEq, Repr

/-- What `nabto_stream_read_buffer` answers. -/
structure ReadAnswer where
  status : NabtoStreamStatus
  bytes : List UInt8
  deriving DecidableEq, Repr

/-- What `nabto_stream_write_buffer` answers. -/
structure WriteAnswer where
  status : NabtoStreamStatus
  written : ℕ
  deriving DecidableEq, Repr

inductive NabtoStreamApplicationEventType
  | opened
  | dataReady
  | dataWrite
  | readClosed
  | writeClosed
  | closed
  deriving DecidableEq, Repr

/-- The library's answers to the calls made while one application event is handled. -/
structure ApplicationAnswers where
  reads : List ReadAnswer
  writes : List WriteAnswer
  close : NabtoStreamStatus
  deriving DecidableEq, Repr

/-- `nabto_stream_next_event_to_handle`, with what the library, the listener of the
content type and the DTLS server answer when the event is handled. -/
inductive NabtoStreamNextEvent
  | accept (contentType : ℕ) (kept : Bool)
  | send (packetSize : ℕ) (ec : NpErrorCode)
  | timeout
  | applicationEvent (eventType : NabtoStreamApplicationEventType) (answers : ApplicationAnswers)
  | timeWait
  | wait
  | nothing
  | released
  | closed
  deriving DecidableEq, Repr

structure NcStreamContext where
  streamId : ℕ
  dtls : Option ℕ
  active : Bool
  connectionRef : ℕ
  acceptCb : Option NcStreamCallback
  readAllCb : Option NcStreamCallback
  readSomeCb : Option NcStreamCallback
  readBytes : List UInt8
  readBufferLength : ℕ
  writeCb : Option NcStreamCallback
  writeBuffer : List UInt8
  closeCb : Option NcStreamCallback
  isSending : Bool
  /-- DTLS sends accepted and not yet completed, by the incarnation that issued them. -/
  dtlsSends : List ℕ
  incarnation : ℕ
  registrations : ℕ
  calls : List (NcStreamCallback × NpErrorCode)
  offered : Bool
  released : Bool
  handedOver : List ℕ
  deriving DecidableEq, Repr

/-- The context in the zeroed stream manager, before any stream used it. -/
def ncStreamUnused : NcStreamContext where
  streamId := 0
  dtls := none
  active := false
  connectionRef := 0
  acceptCb := none
  readAllCb := none
  readSomeCb := none
  readBytes := []
  readBufferLength := 0
  writeCb := none
  writeBuffer := []
  closeCb := none
  isSending := false
  dtlsSends := []
  incarnation := 0
  registrations := 0
  calls := []
  offered := false
  released := false
  handedOver := []

namespace NcStreamContext

/-- The callbacks that are set, in the order in which `nc_stream_destroy` looks at them. -/
def registered (ctx : NcStreamContext) : List NcStreamCallback :=
  ctx.acceptCb.toList ++ ctx.readAllCb.toList ++ ctx.readSomeCb.toList ++ ctx.writeCb.toList ++
    ctx.closeCb.toList

def call (ctx : NcStreamContext) (cb : NcStreamCallback) (ec : NpErrorCode) : NcStreamContext :=
  { ctx with calls := ctx.calls ++ [(cb, ec)] }

/-- The callback the next registration of the slot is. -/
def newCallback (ctx : NcStreamContext) (kind : StreamCallbackKind) (userData : ℕ) :
    NcStreamCallback :=
  ⟨kind, userData, ctx.registrations, ctx.incarnation⟩

end NcStreamContext

/-- `nc_stream_init` once its two events are created. The callbacks stay as they are. -/
def ncStreamInit (ctx : NcStreamContext) (streamId : ℕ) (dtls : ℕ) (connectionRef : ℕ) :
    NcStreamContext :=
  { ctx with
    active := true, dtls := some dtls, streamId := streamId, isSending := false,
    connectionRef := connectionRef, offered := false, released := false }

def ncStreamDestroy (ctx : NcStreamContext) : NcStreamContext :=
  if !ctx.active then ctx
  else
    { ctx with
      calls := ctx.calls ++ ctx.registered.map fun cb => (cb, NpErrorCode.aborted)
      active := false, dtls := none, streamId := 0, incarnation := ctx.incarnation + 1 }

/-- `nc_stream_release` and `nc_stream_abort`. -/
def ncStreamRelease (ctx : NcStreamContext) : NcStreamContext := { ctx with released := true }

def ncStreamResolveAccept (ctx : NcStreamContext) (ec : NpErrorCode) : NcStreamContext :=
  match ctx.acceptCb with
  | some cb => { ctx with acceptCb := none }.call cb ec
  | none => ctx

def ncStreamResolveWrite (ctx : NcStreamContext) (ec : NpErrorCode) : NcStreamContext :=
  match ctx.writeCb with
  | some cb => { ctx with writeCb := none }.call cb ec
  | none => ctx

def ncStreamResolveClose (ctx : NcStreamContext) (ec : NpErrorCode) : NcStreamContext :=
  match ctx.closeCb with
  | some cb => { ctx with closeCb := none }.call cb ec
  | none => ctx

def ncStreamResolveRead (ctx : NcStreamContext) (ec : NpErrorCode) : NcStreamContext :=
  match ctx.readAllCb, ctx.readSomeCb with
  | some cb, _ => { ctx with readBufferLength := 0, readAllCb := none }.call cb ec
  | none, some cb => { ctx with readBufferLength := 0, readSomeCb := none }.call cb ec
  | none, none => { ctx with readBufferLength := 0 }

/-- `nc_stream_do_read`; the library never stores more bytes than it is asked for,
and none once its answers end. -/
def ncStreamDoRead (ctx : NcStreamContext) : List ReadAnswer → NcStreamContext
  | [] => ctx
  | answer :: answers =>
    if ctx.readAllCb.isNone && ctx.readSomeCb.isNone then ctx
    else if answer.status = .ok then
      let bytes := answer.bytes.take ctx.readBufferLength
      if bytes = [] then ctx
      else
        let ctx := { ctx with
          readBytes := ctx.readBytes ++ bytes
          readBufferLength := ctx.readBufferLength - bytes.length }
        if ctx.readAllCb.isSome then
          if ctx.readBufferLength = 0 then ncStreamResolveRead ctx .ok
          else ncStreamDoRead ctx answers
        else ncStreamResolveRead ctx .ok
    else ncStreamResolveRead ctx (ncStreamStatusToEc answer.status)

/-- `nc_stream_do_write_all`; the library never takes more bytes than there are. -/
def ncStreamDoWriteAll (ctx : NcStreamContext) : List WriteAnswer → NcStreamContext
  | [] => ctx
  | answer :: answers =>
    if answer.status = .ok then
      let written := min answer.written ctx.writeBuffer.length
      if written = 0 then ctx
      else if written = ctx.writeBuffer.length then ncStreamResolveWrite ctx .ok
      else ncStreamDoWriteAll { ctx with writeBuffer := ctx.writeBuffer.drop written } answers
    else ncStreamResolveWrite ctx (ncStreamStatusToEc answer.status)

def ncStreamHandleClose (ctx : NcStreamContext) (status : NabtoStreamStatus) : NcStreamContext :=
  if ctx.closeCb.isNone then ctx
  else match status with
    | .ok => ctx
    | .closed => ncStreamResolveClose ctx .ok
    | status => ncStreamResolveClose ctx (ncStreamStatusToEc status)

def ncStreamApplicationEventCallback (ctx : NcStreamContext)
    (eventType : NabtoStreamApplicationEventType) (answers : ApplicationAnswers) :
    NcStreamContext :=
  match eventType with
  | .opened => ncStreamResolveAccept ctx .ok
  | .dataReady => ncStreamDoRead ctx answers.reads
  | .dataWrite => if ctx.writeCb.isSome then ncStreamDoWriteAll ctx answers.writes else ctx
  | .readClosed => ncStreamDoRead ctx answers.reads
  | .writeClosed => ncStreamResolveClose ctx .ok
  | .closed =>
    let ctx := if ctx.writeCb.isSome then ncStreamDoWriteAll ctx answers.writes else ctx
    let ctx := ncStreamResolveAccept ctx .aborted
    let ctx := ncStreamDoRead ctx answers.reads
    ncStreamHandleClose ctx answers.close

/-- `nc_stream_manager_ready_for_accept`: a listener for the content type gets the
stream, which it may refuse; without one the stream is released. -/
def ncStreamManagerReadyForAccept (listeners : List ℕ) (ctx : NcStreamContext) (contentType : ℕ)
    (kept : Bool) : NcStreamContext :=
  let ctx := { ctx with offered := true }
  if contentType ∈ listeners ∧ kept then
    { ctx with handedOver := ctx.handedOver ++ [ctx.incarnation] }
  else ncStreamRelease ctx

def ncStreamSendPacket (ctx : NcStreamContext) (packetSize : ℕ) (ec : NpErrorCode) :
    NcStreamContext :=
  if ctx.isSending then ctx
  else if packetSize = 0 then ctx
  else if ec = .ok then
    { ctx with isSending := true, dtlsSends := ctx.dtlsSends ++ [ctx.incarnation] }
  else { ctx with isSending := true }

/-- The event `nc_stream_event` ends with: without a DTLS connection a packet to send
is skipped and the library asked again. -/
def ncStreamNextEvent (ctx : NcStreamContext) : List NabtoStreamNextEvent → NabtoStreamNextEvent
  | [] => .nothing
  | .send packetSize ec :: answers =>
    if ctx.dtls.isNone then ncStreamNextEvent ctx answers else .send packetSize ec
  | event :: _ => event

def ncStreamEvent (listeners : List ℕ) (ctx : NcStreamContext)
    (answers : List NabtoStreamNextEvent) : NcStreamContext :=
  match ncStreamNextEvent ctx answers with
  | .accept contentType kept => ncStreamManagerReadyForAccept listeners ctx contentType kept
  | .send packetSize ec => ncStreamSendPacket ctx packetSize ec
  | .applicationEvent eventType answers => ncStreamApplicationEventCallback ctx eventType answers
  | .released => ncStreamDestroy ctx
  | .timeout | .timeWait | .wait | .nothing | .closed => ctx

def ncStreamHandlePacket (listeners : List ℕ) (ctx : NcStreamContext)
    (answers : List NabtoStreamNextEvent) : NcStreamContext :=
  ncStreamEvent listeners ctx answers

def ncStreamHandleConnectionClosed (listeners : List ℕ) (ctx : NcStreamContext)
    (answers : List NabtoStreamNextEvent) : NcStreamContext :=
  ncStreamEvent listeners { ctx with dtls := none } answers

def ncStreamDtlsSendCallback (listeners : List ℕ) (ctx : NcStreamContext)
    (answers : List NabtoStreamNextEvent) : NcStreamContext :=
  ncStreamEvent listeners { ctx with isSending := false, dtlsSends := ctx.dtlsSends.tail } answers

def ncStreamAsyncAccept (ctx : NcStreamContext) (userData : ℕ) : NpErrorCode × NcStreamContext :=
  if ctx.acceptCb.isSome then (.operationInProgress, ctx)
  else (.ok, { ctx with
    acceptCb := some (ctx.newCallback .accept userData), registrations := ctx.registrations + 1 })

def ncStreamAsyncReadAll (ctx : NcStreamContext) (userData bufferLength : ℕ)
    (answers : List ReadAnswer) : NpErrorCode × NcStreamContext :=
  if ctx.readAllCb.isSome || ctx.readSomeCb.isSome then (.operationInProgress, ctx)
  else (.ok, ncStreamDoRead { ctx with
    readAllCb := some (ctx.newCallback .read userData), registrations := ctx.registrations + 1
    readBytes := [], readBufferLength := bufferLength } answers)

def ncStreamAsyncReadSome (ctx : NcStreamContext) (userData bufferLength : ℕ)
    (answers : List ReadAnswer) : NpErrorCode × NcStreamContext :=
  if ctx.readAllCb.isSome || ctx.readSomeCb.isSome then (.operationInProgress, ctx)
  else (.ok, ncStreamDoRead { ctx with
    readSomeCb := some (ctx.newCallback .read userData), registrations := ctx.registrations + 1
    readBytes := [], readBufferLength := bufferLength } answers)

def ncStreamAsyncWrite (ctx : NcStreamContext) (userData : ℕ) (buffer : List UInt8)
    (answers : List WriteAnswer) : NpErrorCode × NcStreamContext :=
  if ctx.writeCb.isSome then (.operationInProgress, ctx)
  else (.ok, ncStreamDoWriteAll { ctx with
    writeCb := some (ctx.newCallback .write userData), registrations := ctx.registrations + 1
    writeBuffer := buffer } answers)

def ncStreamAsyncClose (ctx : NcStreamContext) (userData : ℕ) (status : NabtoStreamStatus) :
    NpErrorCode × NcStreamContext :=
  if ctx.closeCb.isSome then (.operationInProgress, ctx)
  else (.ok, ncStreamHandleClose { ctx with
    closeCb := some (ctx.newCallback .close userData),
      registrations := ctx.registrations + 1 } status)

inductive StreamOp
  | asyncAccept (userData : ℕ)
  | asyncReadAll (userData bufferLength : ℕ) (answers : List ReadAnswer)
  | asyncReadSome (userData bufferLength : ℕ) (answers : List ReadAnswer)
  | asyncWrite (userData : ℕ) (buffer : List UInt8) (answers : List WriteAnswer)
  | asyncClose (userData : ℕ) (status : NabtoStreamStatus)
  | release
  deriving DecidableEq, Repr

def ncStreamOp (ctx : NcStreamContext) : StreamOp → NpErrorCode × NcStreamContext
  | .asyncAccept userData => ncStreamAsyncAccept ctx userData
  | .asyncReadAll userData bufferLength answers =>
    ncStreamAsyncReadAll ctx userData bufferLength answers
  | .asyncReadSome userData bufferLength answers =>
    ncStreamAsyncReadSome ctx userData bufferLength answers
  | .asyncWrite userData buffer answers => ncStreamAsyncWrite ctx userData buffer answers
  | .asyncClose userData status => ncStreamAsyncClose ctx userData status
  | .release => (.ok, ncStreamRelease ctx)

/-- The operations on one slot: a call of its owner, its initialisation by
`nc_stream_manager_accept_stream`, and what makes `nc_stream_event` run: the event
queue, which holds the slot's events only while it is active, a packet, the end of
the connection, a completed DTLS send. -/
inductive StreamSlotEvent
  | init (streamId dtls connectionRef : ℕ)
  | op (op : StreamOp)
  | queue (listeners : List ℕ) (answers : List NabtoStreamNextEvent)
  | packet (listeners : List ℕ) (answers : List NabtoStreamNextEvent)
  | connectionClosed (listeners : List ℕ) (answers : List NabtoStreamNextEvent)
  | dtlsSent (listeners : List ℕ) (answers : List NabtoStreamNextEvent)
  deriving DecidableEq, Repr

def streamSlotStep (ctx : NcStreamContext) : StreamSlotEvent → Option NcStreamContext
  | .init streamId dtls connectionRef =>
    if ctx.active then none else some (ncStreamInit ctx streamId dtls connectionRef)
  | .op op => some (ncStreamOp ctx op).2
  | .queue listeners answers =>
    if ctx.active then some (ncStreamEvent listeners ctx answers) else none
  | .packet listeners answers => some (ncStreamHandlePacket listeners ctx answers)
  | .connectionClosed listeners answers =>
    some (ncStreamHandleConnectionClosed listeners ctx answers)
  | .dtlsSent listeners answers =>
    if ctx.dtlsSends = [] then none else some (ncStreamDtlsSendCallback listeners ctx answers)

def streamSlot : Machine NcStreamContext StreamSlotEvent := ⟨ncStreamUnused, streamSlotStep⟩

end NabtoDevice
