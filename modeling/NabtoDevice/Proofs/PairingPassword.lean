import NabtoDevice.Proofs.IamUsers
import NabtoDevice.Proofs.IamVerdict
import NabtoDevice.Spec.PairingPassword

/-! Password pairing answers a request once and without touching `NULL` exactly under conditions
on the state and the request. Without the right password it never changes the users. -/

namespace NabtoDevice

variable (iam : NmIam) (r : PairingPasswordRequest)

section

variable {μ δ : Type} (map : NnStringMap μ) (num : CDouble δ) (set : UnorderedSet String)

/-- Access is allowed, a pairing password is configured and the request has that password. -/
def MayPair (iam : NmIam) (pairingPassword : Option (List UInt8)) (r : PairingPasswordRequest) :
    Prop :=
  nmIamCheckAccess map num iam (r.readFingerprint 0) "Pairing:Password" none = .ok true ∧
    ∃ configured supplied, pairingPassword = some configured ∧
      r.payload.bind CborPayload.password = some supplied ∧ cString supplied = cString configured

def PairingOutcome.Answered (o : PairingOutcome) : Prop := o.responses.length = 1 ∧ o.fault = none

def PairingOutcome.Refused (iam : NmIam) (o : PairingOutcome) : Prop :=
  o.iam = iam ∧ ∀ response ∈ o.responses, 400 ≤ response.code

structure HandledSafely (iam : NmIam) (pairingPassword : Option (List UInt8))
    (r : PairingPasswordRequest) (o : PairingOutcome) : Prop where
  answered : o.Answered
  onlyIf : o.iam.users ≠ iam.users → MayPair map num iam pairingPassword r
  otherwise : ¬ MayPair map num iam pairingPassword r → o.Refused iam

/-- The client gets a new user: its connection is there to the end, no user has its fingerprint,
there is a role for it and a server connect token. -/
structure NewClient (iam : NmIam) (r : PairingPasswordRequest) : Prop where
  connected : 3 < r.reads
  unknown : ∀ user ∈ iam.users, user.fingerprint ≠ some r.fingerprint
  role : (nmIamFindRole iam (if iam.users.isEmpty then "Admin" else "User")).isSome
  token : r.serverConnectToken.isSome

/-- The access check reaches a verdict; if it allows the request, the payload is CBOR, there is a
pairing password to compare a supplied one with, and an id is left if a new user is to be added. -/
def Answerable (iam : NmIam) (pairingPassword : Option (List UInt8)) (r : PairingPasswordRequest) :
    Prop :=
  ∃ verdict, nmIamCheckAccess map num iam
    (r.readFingerprint 0) "Pairing:Password" none = .ok verdict ∧
    (verdict = true → (r.readFingerprint 1).isSome →
      ∃ payload, r.contentFormat = some nabtoDeviceCoapContentFormatApplicationCbor ∧
        r.payload = some payload ∧
        ∀ supplied, payload.password = some supplied →
          ∃ configured, pairingPassword = some configured ∧
            (cString supplied = cString configured → NewClient iam r → HasFreeId iam))

/-- The check that allows a request has compared the fingerprint with those of the users. -/
theorem usersComparable_of_allowed {iam : NmIam} {r : PairingPasswordRequest}
    (h : nmIamCheckAccess map num iam (r.readFingerprint 0) "Pairing:Password" none = .ok true) :
    UsersComparable r.fingerprint iam.users := by
  unfold nmIamCheckAccess PairingPasswordRequest.readFingerprint at h
  by_contra hnot
  split_ifs at h
  · simp [nmIamFindUserByFingerprint, findUserByFingerprint_eq_error hnot] at h
  · simp at h

theorem actingUser_eq_none_iff {f : String} :
    actingUser iam f = none ↔ ∀ user ∈ iam.users, user.fingerprint ≠ some f := by
  simp [actingUser]

/-- Only the search for the id of a new user can fail. -/
theorem pair_ends_iff {iam : NmIam} {r : PairingPasswordRequest}
    (h : UsersComparable r.fingerprint iam.users) :
    (∃ result, nmIamPairNewClient set iam r.pairRequest = .ok result) ↔
      (NewClient iam r → HasFreeId iam) := by
  have hfind : nmIamFindUserByFingerprint iam r.fingerprint = .ok (actingUser iam r.fingerprint) :=
    findUserByFingerprint_eq h
  unfold nmIamPairNewClient
  unfold PairingPasswordRequest.pairRequest PairingPasswordRequest.readFingerprint
  by_cases hread : 3 < r.reads
  · simp only [if_pos hread, if_pos (show 2 < r.reads by omega), nmIamFindUserByCoapRequest, hfind]
    cases hacting : actingUser iam r.fingerprint with
    | some user =>
      refine iff_of_true ⟨_, rfl⟩ fun hnew => ?_
      cases hacting.symm.trans ((actingUser_eq_none_iff iam).mpr hnew.unknown)
    | none =>
      simp only [Option.isNone_some, Bool.false_eq_true, if_false]
      cases hrole : nmIamFindRole iam (if iam.users.isEmpty then "Admin" else "User") with
      | none => exact iff_of_true ⟨_, rfl⟩ fun hnew => by cases hrole ▸ hnew.role
      | some role =>
        cases htoken : r.serverConnectToken with
        | none => exact iff_of_true ⟨_, rfl⟩ fun hnew => by cases htoken ▸ hnew.token
        | some sct =>
          have hnew : NewClient iam r :=
            ⟨hread, (actingUser_eq_none_iff iam).mp hacting, hrole ▸ rfl, htoken ▸ rfl⟩
          have hfull : nmIamNextUserId iam = none ↔ ¬ HasFreeId iam := nmIamNextUserId_eq_none_iff
          cases hid : nmIamNextUserId iam with
          | none => exact iff_of_false (by simp) fun hfree => hfull.mp hid (hfree hnew)
          | some id =>
            refine iff_of_true ⟨_, rfl⟩ fun _ => ?_
            by_contra hnone
            cases hid.symm.trans (hfull.mpr hnone)
  · refine iff_of_true ?_ fun hnew => absurd hnew.connected hread
    simp only [if_neg hread, Option.isNone_none, if_true]
    split_ifs
    · simp only [nmIamFindUserByCoapRequest, hfind]
      cases actingUser iam r.fingerprint <;> exact ⟨_, rfl⟩
    · exact ⟨_, rfl⟩

theorem pairAndRespond_answered_iff :
    (pairAndRespond set iam r).Answered ↔
      ∃ result, nmIamPairNewClient set iam r.pairRequest = .ok result := by
  unfold pairAndRespond
  split <;> simp_all [PairingOutcome.Answered]

theorem checkPassword_answered_iff {iam : NmIam} (pairingPassword : Option (List UInt8))
    {r : PairingPasswordRequest} (payload : CborPayload)
    (h : UsersComparable r.fingerprint iam.users) :
    (checkPassword set iam pairingPassword r payload).Answered ↔
      ∀ supplied, payload.password = some supplied →
        ∃ configured, pairingPassword = some configured ∧
          (cString supplied = cString configured → NewClient iam r → HasFreeId iam) := by
  unfold checkPassword
  cases hp : payload.password with
  | none => simp [PairingOutcome.Answered]
  | some supplied =>
    cases pairingPassword with
    | none => simp [PairingOutcome.Answered]
    | some configured =>
      by_cases heq : cString supplied = cString configured
      · simp only [ne_eq, heq, not_true_eq_false, if_false, pairAndRespond_answered_iff,
          pair_ends_iff set h]
        simp [heq]
      · simp [heq, PairingOutcome.Answered]

theorem nmIamCborInitParser_cases :
    (∃ payload, nmIamCborInitParser r = .ok payload ∧
      r.contentFormat = some nabtoDeviceCoapContentFormatApplicationCbor ∧
      r.payload = some payload) ∨
    ∃ response, nmIamCborInitParser r = .error response ∧ 400 ≤ response.code ∧
      ¬ (r.contentFormat = some nabtoDeviceCoapContentFormatApplicationCbor ∧
        r.payload.isSome) := by
  unfold nmIamCborInitParser
  split_ifs with hcf
  · exact Or.inr ⟨_, rfl, le_rfl, fun h => hcf h.1⟩
  · rw [not_not] at hcf
    cases hp : r.payload with
    | none => exact Or.inr ⟨_, rfl, le_rfl, fun h => by cases h.2⟩
    | some payload => exact Or.inl ⟨payload, rfl, hcf, rfl⟩

theorem answered_iff (pairingPassword : Option (List UInt8)) (r : PairingPasswordRequest) :
    (pairingPasswordHandleRequest map num set iam pairingPassword r).Answered ↔
      Answerable map num iam pairingPassword r := by
  unfold pairingPasswordHandleRequest Answerable
  cases hcheck : nmIamCheckAccess map num iam (r.readFingerprint 0) "Pairing:Password" none with
  | error fault => simp [PairingOutcome.Answered]
  | ok verdict =>
    cases verdict with
    | false => simp [PairingOutcome.Answered]
    | true =>
      cases hfp : r.readFingerprint 1 with
      | none => simp [PairingOutcome.Answered]
      | some f =>
        rcases nmIamCborInitParser_cases r with
          ⟨payload, hparse, hcf, hpayload⟩ | ⟨response, hparse, -, hno⟩
        · simp only [hparse, checkPassword_answered_iff set pairingPassword payload
            (usersComparable_of_allowed map num hcheck)]
          simp [hcf, hpayload]
        · simp only [hparse]
          refine iff_of_false (by simp [PairingOutcome.Answered]) ?_
          rintro ⟨verdict, hok, hall⟩
          obtain ⟨payload, hcf, hpayload, -⟩ := hall (Except.ok.inj hok).symm rfl
          exact hno ⟨hcf, by rw [hpayload]; rfl⟩

/-- Without the right to pair, a request changes nothing and gets errors only. -/
theorem refused_of_not_mayPair {iam : NmIam} {pairingPassword : Option (List UInt8)}
    {r : PairingPasswordRequest} (h : ¬ MayPair map num iam pairingPassword r) :
    (pairingPasswordHandleRequest map num set iam pairingPassword r).Refused iam := by
  unfold pairingPasswordHandleRequest
  cases hcheck : nmIamCheckAccess map num iam (r.readFingerprint 0) "Pairing:Password" none with
  | error fault => simp [PairingOutcome.Refused]
  | ok verdict =>
    cases verdict with
    | false => simp [PairingOutcome.Refused]
    | true =>
      cases hfp : r.readFingerprint 1 with
      | none => simp [PairingOutcome.Refused]
      | some f =>
        rcases nmIamCborInitParser_cases r with
          ⟨payload, hparse, -, hpayload⟩ | ⟨response, hparse, hcode, -⟩
        · simp only [hparse, checkPassword]
          cases hp : payload.password with
          | none => simp [PairingOutcome.Refused]
          | some supplied =>
            cases pairingPassword with
            | none => simp [PairingOutcome.Refused]
            | some configured =>
              have hne : cString supplied ≠ cString configured := fun heq =>
                h ⟨hcheck, configured, supplied, rfl, by rw [hpayload]; exact hp, heq⟩
              simp [hne, PairingOutcome.Refused]
        · simp only [hparse]
          simp [PairingOutcome.Refused, hcode]

/-- A request to pair with a password is handled safely if and only if it can be answered. -/
theorem password_pairing_safe_iff (iam : NmIam) (pairingPassword : Option (List UInt8))
    (r : PairingPasswordRequest) :
    HandledSafely map num iam pairingPassword r
        (pairingPasswordHandleRequest map num set iam pairingPassword r) ↔
      Answerable map num iam pairingPassword r := by
  rw [← answered_iff]
  constructor
  · intro h
    exact h.answered
  · intro h
    refine ⟨h, ?_, refused_of_not_mayPair map num set⟩
    intro hchanged
    by_contra hnot
    exact hchanged (congrArg NmIam.users (refused_of_not_mayPair map num set hnot).1)

end

def openIam : NmIam where
  users := []
  roles := [⟨"Unpaired", ["Pairing"]⟩, ⟨"Admin", []⟩]
  policies := [⟨"Pairing", [⟨.allow, ["Pairing:Password"], []⟩]⟩]

def passwordRequest : PairingPasswordRequest where
  fingerprint := "f1"
  payload := some (.map [("Password", .textString [65])])
  serverConnectToken := some "t1"

/-- Without a pairing password `strcmp` reads `NULL`, and a payload of another content format is
answered twice. -/
theorem password_pairing_unsafe :
    (pairingPasswordHandleRequest assocMap digitsDouble .inOrder openIam none passwordRequest).fault =
      some .pairingPasswordNull ∧
    (pairingPasswordHandleRequest assocMap digitsDouble .inOrder openIam (some [65])
      { passwordRequest with contentFormat := some 0 }).responses =
        [⟨400, some "Invalid Content Format"⟩, ⟨400, some "Bad request"⟩] ∧
    (pairingPasswordHandleRequest assocMap digitsDouble .inOrder openIam (some [65])
      passwordRequest).responses = [⟨201, none⟩] ∧
    ¬ HandledSafely assocMap digitsDouble openIam none passwordRequest
      (pairingPasswordHandleRequest assocMap digitsDouble .inOrder openIam none passwordRequest) := by
  refine ⟨by decide +kernel, by decide +kernel, by decide +kernel, ?_⟩
  intro h
  have hlength := h.answered.1
  exact absurd hlength (by decide +kernel)

end NabtoDevice
