import NabtoDevice.Spec.Policy

/-! The access check of `src/modules/iam/nm_iam.c`. Passing `NULL` to `strcmp`
or to `nm_policy_eval` is undefined in C and is a `Fault` here. -/

namespace NabtoDevice

inductive Fault
  | strcmpNull
  | policyNull
  deriving DecidableEq, Repr

structure NmIamUser where
  id : String
  roles : List String
  fingerprint : Option String
  serverConnectToken : Option String := none
  attributes : List (String × String) := []
  deriving DecidableEq, Repr

structure NmIamRole where
  id : String
  policies : List String
  deriving DecidableEq, Repr

structure NmIam where
  users : List NmIamUser
  roles : List NmIamRole
  policies : List NmPolicy
  deriving DecidableEq, Repr

def findUserByFingerprint (fingerprint : String) : List NmIamUser → Except Fault (Option NmIamUser)
  | [] => .ok none
  | user :: rest =>
    match user.fingerprint with
    | none => .error .strcmpNull
    | some f => if f = fingerprint then .ok (some user) else findUserByFingerprint fingerprint rest

def nmIamFindUserByFingerprint (iam : NmIam) (fingerprint : String) :
    Except Fault (Option NmIamUser) :=
  findUserByFingerprint fingerprint iam.users

def nmIamFindRole (iam : NmIam) (roleStr : String) : Option NmIamRole :=
  iam.roles.find? fun role => role.id = roleStr

def nmIamFindPolicy (iam : NmIam) (policyStr : String) : Option NmPolicy :=
  iam.policies.find? fun policy => policy.id = policyStr

section

variable {μ δ : Type} (map : NnStringMap μ) (num : CDouble δ)

/-- The loop over the policies of a role. A policy that is not found is passed on as `NULL`. -/
def checkAccessPolicies (iam : NmIam) (action : String) (attributes : μ) (effect : NmEffect) :
    List String → Except Fault NmEffect
  | [] => .ok effect
  | policyStr :: rest =>
    match nmIamFindPolicy iam policyStr with
    | none => .error .policyNull
    | some policy =>
      checkAccessPolicies iam action attributes
        (nmPolicyEval map num effect policy action attributes) rest

def nmIamCheckAccessRole (iam : NmIam) (role : NmIamRole) (action : String) (attributes : μ) :
    Except Fault NmEffect :=
  checkAccessPolicies map num iam action attributes .noMatch role.policies

/-- The loop over the roles of a user, with its early returns. -/
def checkAccessRoles (iam : NmIam) (action : String) (attributes : μ) (result : NmEffect) :
    List String → Except Fault NmEffect
  | [] => .ok result
  | roleStr :: rest =>
    match nmIamFindRole iam roleStr with
    | none => .ok .error
    | some role =>
      match nmIamCheckAccessRole map num iam role action attributes with
      | .error f => .error f
      | .ok e =>
        if e = .error ∨ e = .deny then .ok e
        else checkAccessRoles iam action attributes (if e = .allow then .allow else result) rest

def nmIamCheckAccessUser (iam : NmIam) (user : NmIamUser) (action : String) (attributes : μ) :
    Except Fault NmEffect :=
  checkAccessRoles map num iam action attributes .noMatch user.roles

/-- The copy of the caller's attributes, which may be `NULL`. -/
def copyAttributes (attributesIn : Option μ) : μ :=
  match attributesIn with
  | none => map.init
  | some attrs => (map.toList attrs).foldl (fun m kv => map.insert m kv.1 kv.2) map.init

/-- The effect for the user found, or for the role `Unpaired` if there is none. -/
def checkAccessEffect (iam : NmIam) (user : Option NmIamUser) (action : String) (attributes : μ) :
    Except Fault NmEffect :=
  match user with
  | some user =>
    nmIamCheckAccessUser map num iam user action (map.insert attributes "Connection:UserId" user.id)
  | none =>
    match nmIamFindRole iam "Unpaired" with
    | none => .ok .error
    | some unpaired => nmIamCheckAccessRole map num iam unpaired action attributes

/-- `fingerprint` is `none` when the fingerprint of the connection cannot be read. -/
def nmIamCheckAccess (iam : NmIam) (fingerprint : Option String) (action : String)
    (attributesIn : Option μ) : Except Fault Bool :=
  match fingerprint with
  | none => .ok false
  | some fingerprint =>
    match nmIamFindUserByFingerprint iam fingerprint with
    | .error f => .error f
    | .ok user =>
      (checkAccessEffect map num iam user action (copyAttributes map attributesIn)).map
        fun effect => decide (effect = .allow)

end

end NabtoDevice
