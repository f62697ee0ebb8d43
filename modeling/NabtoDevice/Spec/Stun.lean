import NabtoDevice.Spec.DnsMultiResolver
import NabtoDevice.Lib.Machine

/-! The STUN analysis of the device (`src/core/nc_stun.c`). The engine is the
`nabto_stun` client of the common library: what it answers after each input is a
`StunAnswer` in the event. `history` records the analyses started and the calls of
`nc_stun_resolve_callbacks`. -/

namespace NabtoDevice

def ncStunMaxCallbacks : ℕ := 10
def ncStunMaxEndpoints : ℕ := 10

inductive NcStunState
  | none
  | running
  | done
  | aborted
  deriving DecidableEq, Repr

/-- `nabto_stun_next_event_type`; `other` is a value the enumeration does not name. -/
inductive StunNextEvent
  | sendPrimary
  | sendSecondary
  | wait
  | noEvent
  | completed
  | failed
  | other
  deriving DecidableEq, Repr

/-- The answers of the engine: the event to handle, the endpoint and the data to send (an
endpoint is missing when `nabto_stun_get_data_endpoint` fails), the timeout in
milliseconds and the external endpoint it found. -/
structure StunAnswer where
  nextEvent : StunNextEvent
  endpoint : Option NpUdpEndpoint := none
  sendData : List UInt8 := []
  timeoutMs : UInt32 := 0
  extEp : Option NpUdpEndpoint := none
  deriving DecidableEq, Repr

structure StunSend where
  sock : ℕ
  ep : NpUdpEndpoint
  data : List UInt8
  deriving DecidableEq, Repr

inductive StunHistory
  | started
  /-- The callbacks that were called, with their error code. -/
  | resolved (cbs : List ℕ) (ec : NpErrorCode)
  deriving DecidableEq, Repr

structure NcStun where
  priUdp : Option ℕ
  secUdp : Option ℕ
  cbs : List (Option ℕ)
  state : NcStunState
  ec : NpErrorCode
  res : Option NpUdpEndpoint
  hostname : Option String
  priPort : UInt16
  eps : List NpUdpEndpoint
  simple : Bool
  /-- The timeout of the posted timer event. -/
  toEv : Option UInt32
  udpSends : List StunSend
  sendCompletionEvent : Bool
  dnsMultiResolver : NcDnsMultiResolver
  history : List StunHistory

def ncStunInit : NcStun where
  priUdp := none
  secUdp := none
  cbs := List.replicate ncStunMaxCallbacks none
  state := .none
  ec := .ok
  res := none
  hostname := none
  priPort := 0
  eps := []
  simple := false
  toEv := none
  udpSends := []
  sendCompletionEvent := false
  dnsMultiResolver := {}
  history := []

def ncStunDeinit (ctx : NcStun) : NcStun :=
  { ctx with
    state := .aborted
    toEv := none
    udpSends := []
    sendCompletionEvent := false
    dnsMultiResolver := {} }

def ncStunSetSockets (ctx : NcStun) (udp secondaryUdp : ℕ) : NcStun :=
  { ctx with priUdp := some udp, secUdp := some secondaryUdp }

def ncStunSetHost (ctx : NcStun) (hostname : String) (port : UInt16) : NcStun :=
  { ctx with hostname := some hostname, priPort := port }

def ncStunRemoveSockets (ctx : NcStun) : NcStun :=
  { ctx with priUdp := none, secUdp := none }

/-- The first free entry of the callbacks takes `cb`. -/
def addCallback (cb : ℕ) : List (Option ℕ) → Option (List (Option ℕ))
  | [] => none
  | none :: cbs => some (some cb :: cbs)
  | some c :: cbs => (addCallback cb cbs).map (some c :: ·)

def ncStunAsyncAnalyze (ctx : NcStun) (simple : Bool) (cb : ℕ) : NpErrorCode × NcStun :=
  if ctx.state = .aborted then (.aborted, ctx)
  else if ctx.hostname.isNone then (.invalidState, ctx)
  else
    match addCallback cb ctx.cbs with
    | none => (.unknown, ctx)
    | some cbs =>
      let ctx := { ctx with cbs }
      if ctx.state = .running then (.ok, ctx)
      else
        (.ok, { ctx with
          simple
          state := .running
          dnsMultiResolver := ncDnsMultiResolverResolve ctx.dnsMultiResolver ncStunMaxEndpoints
          history := .started :: ctx.history })

def ncStunResolveCallbacks (ctx : NcStun) : NcStun :=
  { ctx with
    cbs := ctx.cbs.map fun _ => none
    history := .resolved (ctx.cbs.filterMap id) ctx.ec :: ctx.history }

/-- The two send cases of `nc_stun_event`, which differ in the socket. -/
def ncStunSend (ctx : NcStun) (udp : Option ℕ) (answer : StunAnswer) : NcStun :=
  match udp with
  | none => ncStunResolveCallbacks { ctx with ec := .udpSocketError }
  | some sock =>
    match answer.endpoint with
    | none => ncStunResolveCallbacks { ctx with ec := .noValidEndpoints }
    | some ep => { ctx with udpSends := ctx.udpSends ++ [⟨sock, ep, answer.sendData⟩] }

def ncStunEvent (ctx : NcStun) (answer : StunAnswer) : NcStun :=
  let ctx := { ctx with toEv := none }
  match answer.nextEvent with
  | .sendPrimary => ncStunSend ctx ctx.priUdp answer
  | .sendSecondary => ncStunSend ctx ctx.secUdp answer
  | .wait => { ctx with toEv := some answer.timeoutMs }
  | .noEvent => ctx
  | .completed =>
    ncStunResolveCallbacks { ctx with state := .done, ec := .ok, res := answer.extEp }
  | .failed => ncStunResolveCallbacks { ctx with ec := .unknown }
  | .other => ctx

def ncStunHandlePacket (ctx : NcStun) (answer : StunAnswer) : NcStun :=
  if ctx.state = .aborted then ctx else ncStunEvent ctx answer

def ncStunConvertEpList (ips : List NpIpAddress) (port : UInt16) : List NpUdpEndpoint :=
  (ips.take ncStunMaxEndpoints).map fun ip => ⟨ip, port⟩

def ncStunDnsCb (ctx : NcStun) (ec : NpErrorCode) (answer : StunAnswer) : NcStun :=
  if ctx.state = .aborted then ncStunResolveCallbacks { ctx with ec := .aborted }
  else if ec ≠ .ok then ncStunResolveCallbacks { ctx with state := .done, ec }
  else
    ncStunEvent { ctx with eps := ncStunConvertEpList ctx.dnsMultiResolver.ips ctx.priPort } answer

inductive StunEvent
  | setSockets (udp secondaryUdp : ℕ)
  | removeSockets
  | setHost (hostname : String) (port : UInt16)
  | analyze (simple : Bool) (cb : ℕ)
  | packet (answer : StunAnswer)
  | dns (e : DnsEvent)
  | dnsCompletion (answer : StunAnswer)
  | udpSent
  | sendCompletion (answer : StunAnswer)
  | timeout (answer : StunAnswer)
  | deinit

/-- The events of the queue happen when they are posted. A send that completes posts the
completion event whatever its result is. -/
def stunStep (ctx : NcStun) : StunEvent → Option NcStun
  | .setSockets udp secondaryUdp => some (ncStunSetSockets ctx udp secondaryUdp)
  | .removeSockets => some (ncStunRemoveSockets ctx)
  | .setHost hostname port => some (ncStunSetHost ctx hostname port)
  | .analyze simple cb => some (ncStunAsyncAnalyze ctx simple cb).2
  | .packet answer => some (ncStunHandlePacket ctx answer)
  | .dns e => (dnsStep ctx.dnsMultiResolver e).map fun r => { ctx with dnsMultiResolver := r }
  | .dnsCompletion answer =>
    ctx.dnsMultiResolver.resolvedCompletionEvent.map fun ec =>
      ncStunDnsCb
        { ctx with dnsMultiResolver.resolvedCompletionEvent := none } ec answer
  | .udpSent =>
    match ctx.udpSends with
    | [] => none
    | _ :: udpSends => some { ctx with udpSends, sendCompletionEvent := true }
  | .sendCompletion answer =>
    if ctx.sendCompletionEvent then
      some (ncStunEvent { ctx with sendCompletionEvent := false } answer)
    else none
  | .timeout answer =>
    ctx.toEv.map fun _ => ncStunEvent { ctx with toEv := none } answer
  | .deinit => if ctx.state = .aborted then none else some (ncStunDeinit ctx)

def stun : Machine NcStun StunEvent where
  init := ncStunInit
  step := stunStep

end NabtoDevice
