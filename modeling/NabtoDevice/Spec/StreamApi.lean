import NabtoDevice.Spec.StreamManager

/-! The streams of `src/api/nabto_device_stream.c` over the stream manager. A
`NabtoDeviceStream` points to a slot of the manager; `incarnation` remembers the
stream it was made for, and `touches` records the stream that each core operation
done through a handle finds in the slot. The callbacks that the core invokes resolve
the futures of the handle they were registered for. -/

namespace NabtoDevice

structure NabtoDeviceStream where
  slot : ℕ
  acceptFut : Option ℕ
  readFut : Option ℕ
  writeFut : Option ℕ
  closeFut : Option ℕ
  incarnation : ℕ
  aborted : Bool
  freed : Bool
  deriving DecidableEq, Repr

/-- A core operation through a handle for the stream `incarnation`, and what the slot held. -/
structure Touch where
  incarnation : ℕ
  slotIncarnation : ℕ
  slotActive : Bool
  deriving DecidableEq, Repr

structure StreamApi where
  manager : NcStreamManager
  handles : List NabtoDeviceStream
  resolved : List (ℕ × NpErrorCode)
  touches : List Touch
  deriving DecidableEq, Repr

namespace StreamApi

def resolve (api : StreamApi) (fut : Option ℕ) (ec : NpErrorCode) : StreamApi :=
  match fut with
  | some fut => { api with resolved := api.resolved ++ [(fut, ec)] }
  | none => api

def modifyHandle (api : StreamApi) (h : ℕ) (f : NabtoDeviceStream → NabtoDeviceStream) :
    StreamApi :=
  { api with handles := api.handles.modify h f }

/-- `nabto_device_stream_accept_callback` and its siblings; `userData` is the handle. -/
def callback (api : StreamApi) (call : NcStreamCallback × NpErrorCode) : StreamApi :=
  match api.handles[call.1.userData]? with
  | none => api
  | some str =>
    match call.1.kind with
    | .accept => api.resolve str.acceptFut call.2
    | .read =>
      (api.resolve str.readFut call.2).modifyHandle call.1.userData fun str =>
        { str with readFut := none }
    | .write =>
      (api.resolve str.writeFut call.2).modifyHandle call.1.userData fun str =>
        { str with writeFut := none }
    | .close => api.resolve str.closeFut call.2

/-- `nabto_device_stream_core_callback`: the handles for the streams of slot `i` that a
step from `before` to `after` handed over. -/
def newHandlesAt (before after : NcStreamManager) (i : ℕ) : List NabtoDeviceStream :=
  match before.slots[i]?, after.slots[i]? with
  | some before, some after =>
    (after.stream.handedOver.drop before.stream.handedOver.length).map fun incarnation =>
      ⟨i, none, none, none, none, incarnation, false, false⟩
  | _, _ => []

def newHandles (before after : NcStreamManager) : List NabtoDeviceStream :=
  (List.range before.slots.length).flatMap (newHandlesAt before after)

def newCalls (before after : NcStreamManager) : List (NcStreamCallback × NpErrorCode) :=
  (before.slots.zip after.slots).flatMap fun slots =>
    slots.2.stream.calls.drop slots.1.stream.calls.length

/-- The core moves on to `manager`; new streams get their handles and callbacks run. -/
def runCore (api : StreamApi) (manager : NcStreamManager) : StreamApi :=
  (newCalls api.manager manager).foldl callback
    { api with manager := manager, handles := api.handles ++ newHandles api.manager manager }

def coreOp (api : StreamApi) (str : NabtoDeviceStream) (op : StreamOp) : NpErrorCode × StreamApi :=
  match api.manager.slots[str.slot]? with
  | none => (.unknown, api)
  | some slot =>
    ((ncStreamOp slot.stream op).1,
      { api with touches := api.touches ++
          [Touch.mk str.incarnation slot.stream.incarnation slot.stream.active] }.runCore
        (api.manager.update str.slot fun stream => (ncStreamOp stream op).2))

end StreamApi

def nabtoDeviceStreamAccept (api : StreamApi) (h : ℕ) (str : NabtoDeviceStream) (fut : ℕ) :
    StreamApi :=
  if str.acceptFut.isSome then api.resolve (some fut) .operationInProgress
  else
    let (ec, api) := (api.modifyHandle h fun str => { str with acceptFut := some fut }).coreOp str
      (.asyncAccept h)
    if ec = .ok then api else api.resolve (some fut) ec

def nabtoDeviceStreamReadAll (api : StreamApi) (h : ℕ) (str : NabtoDeviceStream) (fut : ℕ)
    (bufferLength : ℕ) (answers : List ReadAnswer) : StreamApi :=
  if str.readFut.isSome then api.resolve (some fut) .operationInProgress
  else
    let (ec, api) := (api.modifyHandle h fun str => { str with readFut := some fut }).coreOp str
      (.asyncReadAll h bufferLength answers)
    if ec = .ok then api
    else (api.resolve (some fut) .operationInProgress).modifyHandle h fun str =>
      { str with readFut := none }

/-- Unlike `nabto_device_stream_read_all` it leaves `readFut` set when the core refuses. -/
def nabtoDeviceStreamReadSome (api : StreamApi) (h : ℕ) (str : NabtoDeviceStream) (fut : ℕ)
    (bufferLength : ℕ) (answers : List ReadAnswer) : StreamApi :=
  if str.readFut.isSome then api.resolve (some fut) .operationInProgress
  else
    let (ec, api) := (api.modifyHandle h fun str => { str with readFut := some fut }).coreOp str
      (.asyncReadSome h bufferLength answers)
    if ec = .ok then api else api.resolve (some fut) .operationInProgress

def nabtoDeviceStreamWrite (api : StreamApi) (h : ℕ) (str : NabtoDeviceStream) (fut : ℕ)
    (buffer : List UInt8) (answers : List WriteAnswer) : StreamApi :=
  if str.writeFut.isSome then api.resolve (some fut) .operationInProgress
  else
    let (ec, api) := (api.modifyHandle h fun str => { str with writeFut := some fut }).coreOp str
      (.asyncWrite h buffer answers)
    if ec = .ok then api else api.resolve (some fut) .operationInProgress

/-- The only call that replaces a future that is still set. -/
def nabtoDeviceStreamClose (api : StreamApi) (h : ℕ) (str : NabtoDeviceStream) (fut : ℕ)
    (status : NabtoStreamStatus) : StreamApi :=
  let (ec, api) := (api.modifyHandle h fun str => { str with closeFut := some fut }).coreOp str
    (.asyncClose h status)
  if ec = .ok then api else api.resolve (some fut) .operationInProgress

def nabtoDeviceStreamAbort (api : StreamApi) (h : ℕ) (str : NabtoDeviceStream) : StreamApi :=
  ((api.modifyHandle h fun str => { str with aborted := true }).coreOp str .release).2

def nabtoDeviceStreamFree (api : StreamApi) (h : ℕ) (str : NabtoDeviceStream) : StreamApi :=
  ((api.modifyHandle h fun str => { str with freed := true }).coreOp str .release).2

inductive StreamCall
  | accept (fut : ℕ)
  | readAll (fut bufferLength : ℕ) (answers : List ReadAnswer)
  | readSome (fut bufferLength : ℕ) (answers : List ReadAnswer)
  | write (fut : ℕ) (buffer : List UInt8) (answers : List WriteAnswer)
  | close (fut : ℕ) (status : NabtoStreamStatus)
  | abort
  | free
  deriving DecidableEq, Repr

def streamCall (api : StreamApi) (h : ℕ) (str : NabtoDeviceStream) : StreamCall → StreamApi
  | .accept fut => nabtoDeviceStreamAccept api h str fut
  | .readAll fut bufferLength answers => nabtoDeviceStreamReadAll api h str fut bufferLength answers
  | .readSome fut bufferLength answers =>
    nabtoDeviceStreamReadSome api h str fut bufferLength answers
  | .write fut buffer answers => nabtoDeviceStreamWrite api h str fut buffer answers
  | .close fut status => nabtoDeviceStreamClose api h str fut status
  | .abort => nabtoDeviceStreamAbort api h str
  | .free => nabtoDeviceStreamFree api h str

/-- What the streaming library is assumed to do: ET_ACCEPT comes at most once for a
stream, ET_RELEASED only after `nabto_stream_release`. -/
def libraryEvent (ctx : NcStreamContext) : NabtoStreamNextEvent → Bool
  | .accept _ _ => ctx.active && !ctx.offered
  | .released => ctx.released || !ctx.active
  | _ => true

/-- The same for all streams that a step of the manager asks for their next event. -/
def libraryAllows (flags : NabtoStreamFlags) (ctx : NcStreamManager) : StreamManagerEvent → Bool
  | .packet conn connectionRef packet =>
    match packet.header with
    | none => true
    | some (streamId, packetFlags) =>
      match ncStreamManagerSlotFor flags ctx conn connectionRef streamId packetFlags packet.created with
      | none => true
      | some (i, ctx) => ctx.slots[i]?.all fun slot =>
          libraryEvent slot.stream (ncStreamNextEvent slot.stream packet.answers)
  | .removeConnection conn answers =>
    (List.range ctx.slots.length).all fun i => ctx.slots[i]?.all fun slot =>
      slot.conn ≠ some conn ||
        libraryEvent slot.stream (ncStreamNextEvent { slot.stream with dtls := none } (answers i))
  | .queue i answers | .dtlsSent i answers =>
    ctx.slots[i]?.all fun slot => libraryEvent slot.stream (ncStreamNextEvent slot.stream answers)
  | .op _ _ => false
  | .rstSent | .addListener _ _ | .removeListener _ => true

/-- The core takes a step of its own, or the application calls a function on a stream it
has not freed. -/
inductive StreamApiEvent
  | core (e : StreamManagerEvent)
  | call (h : ℕ) (call : StreamCall)

def streamApiStep (flags : NabtoStreamFlags) (api : StreamApi) : StreamApiEvent → Option StreamApi
  | .core e =>
    if libraryAllows flags api.manager e then
      (streamManagerStep flags api.manager e).map api.runCore
    else none
  | .call h call =>
    (api.handles[h]?.filter fun str => !str.freed).map fun str => streamCall api h str call

def streamApi (flags : NabtoStreamFlags) (maxStreams : ℕ) : Machine StreamApi StreamApiEvent :=
  ⟨⟨ncStreamManagerInit maxStreams, [], [], []⟩, streamApiStep flags⟩

end NabtoDevice
