import NabtoDevice.Spec.Platform
import NabtoDevice.Lib.Machine

/-! Password authentication of client connections (`src/core/nc_spake2.c` and
`src/core/nc_spake2_coap.c`): the CoAP resources `p2p/pwd-auth/1` and `p2p/pwd-auth/2`
of one slot of the connection dispatcher. A request of the first resource is kept until
the application delivers a password for it. What tinycbor and mbedtls find in a
request or return is part of the events, and the hash function is a parameter. -/

namespace NabtoDevice

def ncSpake2UsernameMaxLength : ℕ := 32
def ncSpake2MaxPasswordAuthenticationRequests : UInt64 := 6
def nabtoCoapContentFormatApplicationCbor : ℤ := 60
def nabtoCoapContentFormatApplicationOctetStream : ℤ := 42

/-- What `nc_client_connection` holds about the authentication. -/
structure PasswordAuthentication where
  hasSpake2Key : Bool
  spake2Key : List UInt8
  passwordAuthenticated : Bool
  passwordAuthenticationRequests : UInt64
  deriving DecidableEq, Repr

/-- The fields as `nc_client_connection_open` clears them. -/
def PasswordAuthentication.cleared : PasswordAuthentication where
  hasSpake2Key := false
  spake2Key := List.replicate 32 0
  passwordAuthenticated := false
  passwordAuthenticationRequests := 0

def ncClientConnectionIsPasswordAuthenticated (conn : PasswordAuthentication) : Bool :=
  conn.passwordAuthenticated

structure CoapCode where
  cls : ℕ
  detail : ℕ
  deriving DecidableEq, Repr

inductive PwdAuthResource
  | one
  | two
  deriving DecidableEq, Repr

structure CoapResponse where
  code : CoapCode
  contentFormat : Option ℤ
  payload : Option (List UInt8)
  deriving DecidableEq, Repr

/-- `nabto_coap_server_send_error_response` without a message. -/
def coapErrorResponse (cls detail : ℕ) : CoapResponse := ⟨⟨cls, detail⟩, none, none⟩

def coapCreated (payload : List UInt8) : CoapResponse :=
  ⟨⟨2, 1⟩, some nabtoCoapContentFormatApplicationOctetStream, some payload⟩

def readTextString (value : CborValue) (maxLength : ℕ) : Option (List UInt8) :=
  match value with
  | .textString s => if s.length > maxLength then none else some s
  | _ => none

/-- `pointOk` is what `mbedtls_ecp_point_read_binary` says about the bytes. -/
def readGroupElement (value : CborValue) (pointOk : Bool) : Option (List UInt8) :=
  match value with
  | .byteString s => if s.length > 256 then none else if pointOk then some s else none
  | _ => none

/-- A request of `p2p/pwd-auth/1`, with the values its payload has for the keys "Username"
and "T". -/
structure PwdAuth1Request where
  contentFormat : ℤ := nabtoCoapContentFormatApplicationCbor
  payload : Option (List UInt8)
  allocated : Bool := true
  username : CborValue
  t : CborValue
  pointOk : Bool := true
  deriving DecidableEq, Repr

def readUsernameAndPassword (request : PwdAuth1Request) : Option (List UInt8 × List UInt8) := do
  let t ← readGroupElement request.t request.pointOk
  let username ← readTextString request.username ncSpake2UsernameMaxLength
  return (username, t)

/-- An `nc_spake2_password_request` in the hands of the password request handler. Its CoAP
request has a connection until that one is removed from the CoAP server. -/
structure PasswordRequest where
  username : List UInt8
  t : List UInt8
  connectionRef : ℕ
  hasConnection : Bool
  deriving DecidableEq, Repr

/-- What the operations of `nc_spake2_password_ready` return. `key` is what
`calculateKey` wrote to its key argument, which can happen also when it fails. -/
structure CalculatedKey where
  groupLoadOk : Bool := true
  calculateKeyOk : Bool := true
  pointWriteOk : Bool := true
  key : Option (List UInt8)
  s : List UInt8
  deriving DecidableEq, Repr

def CalculatedKey.statusOk (r : CalculatedKey) : Bool :=
  r.groupLoadOk && r.calculateKeyOk && r.pointWriteOk

/-- A response together with the connection and the resource it was sent for. -/
structure PwdAuthAnswer where
  connectionRef : ℕ
  resource : PwdAuthResource
  response : CoapResponse
  deriving DecidableEq, Repr

structure Spake2State where
  passwordRequestHandler : Bool
  connection : Option PasswordAuthentication
  /-- Of the latest connection in the slot. -/
  connectionRef : ℕ
  passwordRequests : List PasswordRequest
  /-- All responses, the latest first. -/
  answers : List PwdAuthAnswer
  deriving DecidableEq, Repr

def ncSpake2Init : Spake2State where
  passwordRequestHandler := false
  connection := none
  connectionRef := 0
  passwordRequests := []
  answers := []

def Spake2State.answer (s : Spake2State) (resource : PwdAuthResource) (response : CoapResponse) :
    Spake2State :=
  { s with answers := ⟨s.connectionRef, resource, response⟩ :: s.answers }

def ncSpake2SetPasswordRequestCallback (s : Spake2State) : NpErrorCode × Spake2State :=
  if s.passwordRequestHandler then (.inUse, s) else (.ok, { s with passwordRequestHandler := true })

def ncSpake2ClearPasswordRequestCallback (s : Spake2State) : Spake2State :=
  { s with passwordRequestHandler := false }

def PasswordAuthentication.countRequest (conn : PasswordAuthentication) : PasswordAuthentication :=
  { conn with passwordAuthenticationRequests := conn.passwordAuthenticationRequests + 1 }

/-- The response of `nc_spake2_handle_coap_1`, or the values handed to the password
request handler. The count of requests includes this one. -/
def pwdAuth1Response (handler : Bool) (conn : PasswordAuthentication) (request : PwdAuth1Request) :
    Except CoapResponse (List UInt8 × List UInt8) :=
  if !handler then .error (coapErrorResponse 4 4)
  else if conn.passwordAuthenticationRequests > ncSpake2MaxPasswordAuthenticationRequests then
    .error (coapErrorResponse 4 29)
  else if request.contentFormat ≠ nabtoCoapContentFormatApplicationCbor then
    .error (coapErrorResponse 4 15)
  else if request.payload.isNone then .error (coapErrorResponse 4 0)
  else if !request.allocated then .error (coapErrorResponse 5 0)
  else
    match readUsernameAndPassword request with
    | none => .error (coapErrorResponse 4 0)
    | some values => .ok values

def ncSpake2HandleCoap1 (s : Spake2State) (conn : PasswordAuthentication)
    (request : PwdAuth1Request) : Spake2State :=
  let conn := conn.countRequest
  let s := { s with connection := some conn }
  match pwdAuth1Response s.passwordRequestHandler conn request with
  | .error response => s.answer .one response
  | .ok (username, t) =>
    { s with passwordRequests := s.passwordRequests ++ [⟨username, t, s.connectionRef, true⟩] }

/-- The response of `nc_spake2_handle_coap_2`. -/
def pwdAuth2Response (sha256 : List UInt8 → List UInt8) (handler : Bool)
    (conn : PasswordAuthentication) (payload : Option (List UInt8)) : CoapResponse :=
  if !handler then coapErrorResponse 4 4
  else if conn.passwordAuthenticationRequests > ncSpake2MaxPasswordAuthenticationRequests then
    coapErrorResponse 4 29
  else
    match payload with
    | none => coapErrorResponse 4 0
    | some payload =>
      if payload.length ≠ 32 then coapErrorResponse 4 0
      else if !conn.hasSpake2Key then coapErrorResponse 4 0
      else
        let hash1 := sha256 conn.spake2Key
        let hash2 := sha256 hash1
        if payload ≠ hash2 then coapErrorResponse 4 1 else coapCreated hash1

def ncSpake2HandleCoap2 (sha256 : List UInt8 → List UInt8) (s : Spake2State)
    (conn : PasswordAuthentication) (payload : Option (List UInt8)) : Spake2State :=
  let conn := conn.countRequest
  let s := { s with connection := some conn }
  s.answer .two (pwdAuth2Response sha256 s.passwordRequestHandler conn payload)

/-- The key argument of `calculateKey` is the key of the connection, so that the key
changes even when the request is answered with an error. -/
def PasswordAuthentication.passwordReady (conn : PasswordAuthentication) (r : CalculatedKey) :
    PasswordAuthentication :=
  { conn with
    spake2Key := r.key.getD conn.spake2Key
    hasSpake2Key := r.statusOk || conn.hasSpake2Key }

/-- The request at index `i` gets its password. -/
def ncSpake2PasswordReady (s : Spake2State) (i : ℕ) (req : PasswordRequest) (r : CalculatedKey) :
    Spake2State :=
  let s := { s with passwordRequests := s.passwordRequests.eraseIdx i }
  let reply (response : CoapResponse) (s : Spake2State) : Spake2State :=
    { s with answers := ⟨req.connectionRef, .one, response⟩ :: s.answers }
  if !req.hasConnection then reply (coapErrorResponse 5 0) s
  else
    let s := { s with connection := s.connection.map (·.passwordReady r) }
    if r.statusOk then reply (coapCreated r.s) s else reply (coapErrorResponse 5 0) s

def Spake2State.openConnection (s : Spake2State) : Spake2State :=
  { s with connection := some .cleared, connectionRef := s.connectionRef + 1 }

/-- `nc_client_connection_destroy_connection` removes the connection from the CoAP server,
which drops it from the requests it has. -/
def Spake2State.destroyConnection (s : Spake2State) : Spake2State :=
  { s with
    connection := none
    passwordRequests := s.passwordRequests.map fun req => { req with hasConnection := false } }

inductive Spake2Event
  | openConnection
  | destroyConnection
  | setPasswordRequestCallback
  | clearPasswordRequestCallback
  | pwdAuth1 (request : PwdAuth1Request)
  | pwdAuth2 (payload : Option (List UInt8))
  | passwordReady (i : ℕ) (r : CalculatedKey)
  deriving DecidableEq, Repr

def spake2Step (sha256 : List UInt8 → List UInt8) (s : Spake2State) :
    Spake2Event → Option Spake2State
  | .openConnection => if s.connection.isNone then some s.openConnection else none
  | .destroyConnection => if s.connection.isSome then some s.destroyConnection else none
  | .setPasswordRequestCallback => some (ncSpake2SetPasswordRequestCallback s).2
  | .clearPasswordRequestCallback => some (ncSpake2ClearPasswordRequestCallback s)
  | .pwdAuth1 request => s.connection.map fun conn => ncSpake2HandleCoap1 s conn request
  | .pwdAuth2 payload => s.connection.map fun conn => ncSpake2HandleCoap2 sha256 s conn payload
  | .passwordReady i r => s.passwordRequests[i]?.map fun req => ncSpake2PasswordReady s i req r

def spake2 (sha256 : List UInt8 → List UInt8) : Machine Spake2State Spake2Event where
  init := ncSpake2Init
  step := spake2Step sha256

end NabtoDevice
