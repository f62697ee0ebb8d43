import NabtoDevice.Lib.HandleTable
import NabtoDevice.Spec.ClientConnectionDispatch

/-! The references of client connections: `nc_client_connection_dispatch_connection_from_ref`
of `src/core/nc_client_connection_dispatch.c`, which `nc_device_connection_from_ref` of
`src/core/nc_device.c` calls, and an observer that numbers the connections in the order they
were opened and keeps the references they got. -/

namespace NabtoDevice

open HandleTable (Table)

/-- The index of the element whose connection is returned. -/
def ncClientConnectionDispatchConnectionFromRef (ctx : ClientConnectionDispatch) (ref : UInt64) :
    Option ℕ :=
  ctx.elms.findIdx? fun elm => elm.any fun c => decide (c.connectionRef = ref)

def ncDeviceConnectionFromRef (ctx : ClientConnectionDispatch) (ref : UInt64) : Option ℕ :=
  ncClientConnectionDispatchConnectionFromRef ctx ref

structure ReferencedDispatch where
  ctx : ClientConnectionDispatch
  /-- The references given so far, and the number of the connection in each element. -/
  given : Table UInt64

/-- The element that became active between `ctx` and `ctx'`. -/
def openedElm (ctx ctx' : ClientConnectionDispatch) : Option (ℕ × DispatchedConnection) :=
  (List.range ctx'.elms.length).findSome? fun i =>
    match ctx.elms[i]?, ctx'.elms[i]? with
    | some none, some (some c) => some (i, c)
    | _, _ => none

/-- The element that was active in `ctx` and is not in `ctx'`. -/
def closedElm (ctx ctx' : ClientConnectionDispatch) : Option ℕ :=
  (List.range ctx'.elms.length).findSome? fun i =>
    match ctx.elms[i]?, ctx'.elms[i]? with
    | some (some _), some none => some i
    | _, _ => none

def referencedStep (t : ReferencedDispatch) (e : DispatchEvent) : Option ReferencedDispatch :=
  (dispatchStep t.ctx e).map fun ctx' =>
    { ctx := ctx'
      given :=
        match openedElm t.ctx ctx', closedElm t.ctx ctx' with
        | some (i, c), _ => t.given.create i c.connectionRef
        | none, some i => t.given.drop i
        | none, none => t.given }

/-- The step calls `nc_client_connection_open`, which counts even if it fails. -/
def callsOpen (t : ReferencedDispatch) (e : DispatchEvent) : Bool :=
  (dispatchStep t.ctx e).any fun ctx' =>
    decide (ctx'.deviceConnectionRef ≠ t.ctx.deviceConnectionRef)

def referencedDispatch (maxConnections : ℕ) : Machine ReferencedDispatch DispatchEvent where
  init := ⟨ncClientConnectionDispatchInit maxConnections, ⟨[], List.replicate maxConnections none⟩⟩
  step := referencedStep

end NabtoDevice
