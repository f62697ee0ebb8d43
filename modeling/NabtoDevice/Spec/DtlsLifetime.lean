import NabtoDevice.Spec.DtlsClient

/-! The end of a DTLS client context (`src/modules/mbedtls/nm_mbedtls_cli.c`). The owner calls
`nm_mbedtls_cli_destroy` once and at any time, also from inside a callback, and neither connects,
resets nor closes the context after it. When the context has been freed, the functions that are
still running return into it and the UDP sends that are outstanding call it back. -/

namespace NabtoDevice

structure DtlsLifetime where
  client : DtlsClient
  /-- The context was accessed after it was freed. A second free is such an access too. -/
  fault : Bool
  deriving DecidableEq, Repr

namespace DtlsLifetime

def create : DtlsLifetime := ⟨.create, false⟩

/-- What can still happen to a context that has been freed; its events have been cancelled. A
function that does nothing after its callback just returns. -/
def dangling (t : DtlsLifetime) : DtlsClientEvent → Option DtlsLifetime
  | .ret =>
    match t.client.frames with
    | [] => none
    | rest :: frames =>
      some { client := { t.client with frames := frames }, fault := t.fault || rest ≠ .done }
  | .udpSent coalesced _ =>
    if t.client.frames = [] ∧ coalesced < t.client.udpSends then
      some { client := { t.client with
        udpSends := t.client.udpSends - (coalesced + 1) }, fault := true }
    else none
  | _ => none

/-- The return into `nm_dtls_mbedtls_send` from the event handler that it called itself. The
function frees a destroyed context and returns into `dtls_cli_close`, which is a step of its own. -/
def returnToSend (t : DtlsLifetime) : Option DtlsLifetime :=
  if t.client.destroyed then some { t with client := t.client.doFree }
  else (dtlsClientStep t.client .ret).map fun client => { t with client := client }

end DtlsLifetime

def dtlsLifetimeStep (t : DtlsLifetime) (e : DtlsClientEvent) : Option DtlsLifetime :=
  if t.client.freed then t.dangling e
  else if e = .destroy then
    if t.client.destroyed then none else some { t with client := t.client.destroy }
  else if e = .ret ∧ t.client.frames.head? = some .closeNotify then t.returnToSend
  else (dtlsClientStep t.client e).map fun client => { t with client := client }

def dtlsLifetime : Machine DtlsLifetime DtlsClientEvent := ⟨.create, dtlsLifetimeStep⟩

end NabtoDevice
