import NabtoDevice.Spec.IamUsers
import NabtoDevice.Spec.Platform

/-! The CoAP resource `pairing/password`, `src/modules/iam/nm_iam_pairing_password.c`, with the
CBOR helpers of `src/modules/iam/nm_iam_coap_handler.c`. What tinycbor finds in a payload is part
of the request; a string whose chunks cannot be read is `invalid`. Allocations succeed. -/

namespace NabtoDevice

inductive CborPayload
  | value (v : CborValue)
  | map (entries : List (String × CborValue))
  deriving DecidableEq, Repr

def nabtoDeviceCoapContentFormatApplicationCbor : ℕ := 60

/-- A request. The fingerprint of its client is read several times; the first `reads` of them
find the connection still open. -/
structure PairingPasswordRequest where
  fingerprint : String
  reads : ℕ := 4
  contentFormat : Option ℕ := some nabtoDeviceCoapContentFormatApplicationCbor
  payload : Option CborPayload
  serverConnectToken : Option String
  deriving DecidableEq, Repr

def PairingPasswordRequest.readFingerprint (r : PairingPasswordRequest) (k : ℕ) : Option String :=
  if k < r.reads then some r.fingerprint else none

/-- `nabto_device_coap_error_response`, or a code without a message. -/
structure PairingResponse where
  code : ℕ
  message : Option String
  deriving DecidableEq, Repr

inductive PairingFault
  | access (fault : Fault)
  /-- `strcmp` with a pairing password that is `NULL`. -/
  | pairingPasswordNull
  | pair (fault : PairFault)
  deriving DecidableEq, Repr

structure PairingOutcome where
  iam : NmIam
  responses : List PairingResponse
  fault : Option PairingFault
  deriving DecidableEq, Repr

/-- The payload, or the response that the helper sends itself. -/
def nmIamCborInitParser (r : PairingPasswordRequest) : Except PairingResponse CborPayload :=
  if r.contentFormat ≠ some nabtoDeviceCoapContentFormatApplicationCbor then
    .error ⟨400, some "Invalid Content Format"⟩
  else
    match r.payload with
    | none => .error ⟨400, some "Missing payload"⟩
    | some payload => .ok payload

def nmIamCborDecodeString (value : CborValue) : Option (List UInt8) :=
  match value with
  | .textString s => if s.length < 1024 then some s else none
  | _ => none

def nmIamCborDecodeKvString (payload : CborPayload) (key : String) : Option (List UInt8) :=
  match payload with
  | .map entries => nmIamCborDecodeString ((entries.lookup key).getD .invalid)
  | .value _ => none

/-- The password as a string, which is the old format, or in a map. -/
def CborPayload.password (payload : CborPayload) : Option (List UInt8) :=
  match payload with
  | .value v => nmIamCborDecodeString v
  | .map _ => nmIamCborDecodeKvString payload "Password"

/-- The bytes up to the first zero, which is what `strcmp` compares. -/
def cString (bytes : List UInt8) : List UInt8 := bytes.takeWhile (· ≠ 0)

def PairingPasswordRequest.pairRequest (r : PairingPasswordRequest) : PairRequest where
  fingerprint := r.readFingerprint 2
  closed := (r.readFingerprint 3).isNone
  serverConnectToken := r.serverConnectToken

section

variable {μ δ : Type} (map : NnStringMap μ) (num : CDouble δ) (set : UnorderedSet String)

/-- The part of `handle_request` behind the check of the password. -/
def pairAndRespond (iam : NmIam) (r : PairingPasswordRequest) : PairingOutcome :=
  match nmIamPairNewClient set iam r.pairRequest with
  | .error fault => ⟨iam, [], some (.pair fault)⟩
  | .ok (none, iam') => ⟨iam', [⟨500, some "Server error"⟩], none⟩
  | .ok (some _, iam') => ⟨iam', [⟨201, none⟩], none⟩

/-- The part of `handle_request` that decodes the password and compares it. -/
def checkPassword (iam : NmIam) (pairingPassword : Option (List UInt8)) (r : PairingPasswordRequest)
    (payload : CborPayload) : PairingOutcome :=
  match payload.password with
  | none => ⟨iam, [⟨400, some "Missing password"⟩], none⟩
  | some password =>
    match pairingPassword with
    | none => ⟨iam, [], some .pairingPasswordNull⟩
    | some pairingPassword =>
      if cString password ≠ cString pairingPassword then
        ⟨iam, [⟨401, some "Wrong Password"⟩], none⟩
      else pairAndRespond set iam r

/-- `handle_request`. A request that the CBOR helper has answered is answered again. -/
def pairingPasswordHandleRequest (iam : NmIam) (pairingPassword : Option (List UInt8))
    (r : PairingPasswordRequest) : PairingOutcome :=
  match nmIamCheckAccess map num iam (r.readFingerprint 0) "Pairing:Password" none with
  | .error fault => ⟨iam, [], some (.access fault)⟩
  | .ok false => ⟨iam, [⟨403, some "Access Denied"⟩], none⟩
  | .ok true =>
    match r.readFingerprint 1 with
    | none => ⟨iam, [⟨500, some "Server error"⟩], none⟩
    | some _ =>
      match nmIamCborInitParser r with
      | .error response => ⟨iam, [response, ⟨400, some "Bad request"⟩], none⟩
      | .ok payload => checkPassword set iam pairingPassword r payload

end

end NabtoDevice
