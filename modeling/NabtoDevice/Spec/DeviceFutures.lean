import NabtoDevice.Spec.StreamApi

/-! The futures an application passes to the stream functions of
`src/api/nabto_device_stream.c` and to `nabto_device_close` of `src/api/nabto_device.c`.
The streams are the machine of `Spec.StreamApi`; of the device only what
`nc_device_close` and its callback touch is kept. `ops` records for each future that was
passed what became of the call: refused, or an operation of the core. -/

namespace NabtoDevice

inductive NcDeviceState
  | setup
  | running
  | stopped
  deriving DecidableEq, Repr

inductive FutureOp
  /-- No operation was started and the future gets `ec`. -/
  | refused (ec : NpErrorCode)
  /-- The operation of a stream that registered `cb`. -/
  | stream (cb : NcStreamCallback)
  /-- A close of the device. -/
  | close
  deriving DecidableEq, Repr

structure DeviceFutures where
  api : StreamApi
  state : NcDeviceState
  closeCb : Bool
  closeFut : Option ℕ
  ops : List (ℕ × FutureOp)
  deriving DecidableEq, Repr

def StreamCall.future : StreamCall → Option ℕ
  | .accept fut | .readAll fut _ _ | .readSome fut _ _ | .write fut _ _ | .close fut _ => some fut
  | .abort | .free => none

/-- What the core makes of an operation on the slot of a handle. `refusal` is what the
future gets when the core refuses with an error code. -/
def coreAnswer (api : StreamApi) (h : ℕ) (str : NabtoDeviceStream) (kind : StreamCallbackKind)
    (op : StreamOp) (refusal : NpErrorCode → NpErrorCode) : FutureOp :=
  match api.manager.slots[str.slot]? with
  | none => .refused (refusal .unknown)
  | some slot =>
    let ec := (ncStreamOp slot.stream op).1
    if ec = .ok then .stream (slot.stream.newCallback kind h) else .refused (refusal ec)

/-- What becomes of a call that is given a future. -/
def callOp (api : StreamApi) (h : ℕ) (str : NabtoDeviceStream) : StreamCall → Option (ℕ × FutureOp)
  | .accept fut => some (fut, if str.acceptFut.isSome then .refused .operationInProgress
      else coreAnswer api h str .accept (.asyncAccept h) id)
  | .readAll fut bufferLength answers =>
    some (fut, if str.readFut.isSome then .refused .operationInProgress
      else coreAnswer api h str .read (.asyncReadAll h bufferLength answers)
        fun _ => .operationInProgress)
  | .readSome fut bufferLength answers =>
    some (fut, if str.readFut.isSome then .refused .operationInProgress
      else coreAnswer api h str .read (.asyncReadSome h bufferLength answers)
        fun _ => .operationInProgress)
  | .write fut buffer answers =>
    some (fut, if str.writeFut.isSome then .refused .operationInProgress
      else coreAnswer api h str .write (.asyncWrite h buffer answers)
        fun _ => .operationInProgress)
  | .close fut status =>
    some (fut, coreAnswer api h str .close (.asyncClose h status) fun _ => .operationInProgress)
  | .abort | .free => none

/-- `nc_device_close`; the connections and the attacher are closed step by step, and the
callback comes from `nc_device_attach_closed_cb`. -/
def ncDeviceClose (d : DeviceFutures) : NpErrorCode × DeviceFutures :=
  if d.state ≠ .running then (.invalidState, d)
  else (.ok, { d with closeCb := true, state := .stopped })

def nabtoDeviceClose (d : DeviceFutures) (fut : ℕ) : DeviceFutures :=
  let r := ncDeviceClose { d with closeFut := some fut }
  if r.1 ≠ .ok then
    { r.2 with api := r.2.api.resolve (some fut) r.1, ops := r.2.ops ++ [(fut, .refused r.1)] }
  else { r.2 with ops := r.2.ops ++ [(fut, .close)] }

def nabtoDeviceCloseCb (d : DeviceFutures) (ec : NpErrorCode) : DeviceFutures :=
  { d with api := d.api.resolve d.closeFut ec }

def ncDeviceAttachClosedCb (d : DeviceFutures) : DeviceFutures :=
  if d.closeCb then nabtoDeviceCloseCb { d with closeCb := false } .ok else d

inductive DeviceFuturesEvent
  | stream (e : StreamApiEvent)
  | deviceStart
  | deviceClose (fut : ℕ)
  | deviceStop
  | attachClosed

/-- A future is not passed again while it may be in use, so each use has its own number,
and a stream is freed when its futures are resolved, as `nabto_device_stream_free` demands. -/
def applicationAllows (d : DeviceFutures) : DeviceFuturesEvent → Bool
  | .stream (.call h .free) =>
    d.ops.all fun (fut, op) =>
      match op with
      | .stream cb => cb.userData ≠ h || (d.api.resolved.map Prod.fst).contains fut
      | .refused _ | .close => true
  | .stream (.call _ call) => call.future.all fun fut => !(d.ops.map Prod.fst).contains fut
  | .deviceClose fut => !(d.ops.map Prod.fst).contains fut
  | .stream (.core _) | .deviceStart | .deviceStop | .attachClosed => true

def deviceFuturesStep (flags : NabtoStreamFlags) (d : DeviceFutures) (e : DeviceFuturesEvent) :
    Option DeviceFutures :=
  if applicationAllows d e = false then none
  else
    match e with
    | .stream (.core e) =>
      (streamApiStep flags d.api (.core e)).map fun api => { d with api }
    | .stream (.call h call) =>
      (d.api.handles[h]?.filter fun str => !str.freed).map fun str =>
        { d with
          api := streamCall d.api h str call
          ops := d.ops ++ (callOp d.api h str call).toList }
    | .deviceStart => some { d with state := .running }
    | .deviceClose fut => some (nabtoDeviceClose d fut)
    | .deviceStop => some { d with state := .stopped }
    | .attachClosed => some (ncDeviceAttachClosedCb d)

def deviceFutures (flags : NabtoStreamFlags) (maxStreams : ℕ) :
    Machine DeviceFutures DeviceFuturesEvent :=
  ⟨⟨(streamApi flags maxStreams).init, .setup, false, none, []⟩, deviceFuturesStep flags⟩

end NabtoDevice
