import NabtoDevice.Lib.FirstFree
import NabtoDevice.Lib.Machine
import NabtoDevice.Lib.Unordered
import NabtoDevice.Spec.Iam

/-! The users of `src/modules/iam/nm_iam.c`: pairing, deleting users, and adding and removing
roles. Allocations succeed. What the device does with the server connect token of a new user and
the callback for changed users are left out. -/

namespace NabtoDevice

/-- What a pairing request meets. The connection may go away between the two times the
fingerprint of its client is read. -/
structure PairRequest where
  fingerprint : Option String
  closed : Bool := false
  /-- What `nabto_device_create_server_connect_token` creates, or `none` if it fails. -/
  serverConnectToken : Option String
  deriving DecidableEq, Repr

/-- How a pairing ends the process. -/
inductive PairFault
  | lookup (fault : Fault)
  | userIdOverflow
  deriving DecidableEq, Repr

def nmIamFindUserByCoapRequest (iam : NmIam) (fingerprint : Option String) :
    Except Fault (Option NmIamUser) :=
  match fingerprint with
  | none => .ok none
  | some fp => nmIamFindUserByFingerprint iam fp

def nmIamFindUserById (iam : NmIam) (id : String) : Option NmIamUser :=
  iam.users.find? fun user => user.id = id

/-- The largest `int`. -/
def intMax : ℕ := 2147483647

/-- `none` if the `int` that counts up overflows. -/
def nmIamNextUserId (iam : NmIam) : Option String :=
  (FirstFree.search (fun i => (nmIamFindUserById iam (toString i)).isSome) intMax 0).map toString

def nmIamAddUser (iam : NmIam) (user : NmIamUser) : NmIam :=
  { iam with users := iam.users ++ [user] }

/-- The user returned, with `none` for `NULL`, and the state afterwards. -/
def nmIamPairNewClient (set : UnorderedSet String) (iam : NmIam) (request : PairRequest) :
    Except PairFault (Option NmIamUser × NmIam) :=
  match nmIamFindUserByCoapRequest iam request.fingerprint with
  | .error fault => .error (.lookup fault)
  | .ok (some user) => .ok (some user, iam)
  | .ok none =>
    match if request.closed then none else request.fingerprint with
    | none => .ok (none, iam)
    | some fingerprint =>
      let roleStr := if iam.users.isEmpty then "Admin" else "User"
      if (nmIamFindRole iam roleStr).isNone then .ok (none, iam)
      else
        match request.serverConnectToken with
        | none => .ok (none, iam)
        | some sct =>
          match nmIamNextUserId iam with
          | none => .error .userIdOverflow
          | some nextId =>
            let user : NmIamUser := {
              id := nextId, roles := set.insert [] roleStr, fingerprint := some fingerprint
              serverConnectToken := some sct }
            .ok (some user, nmIamAddUser iam user)

def nmIamDeleteUser (iam : NmIam) (userId : String) : NmIam :=
  { iam with users := iam.users.eraseP fun user => user.id = userId }

def updateUser (userId : String) (f : NmIamUser → NmIamUser) : List NmIamUser → List NmIamUser
  | [] => []
  | user :: rest => if user.id = userId then f user :: rest else user :: updateUser userId f rest

def nmIamUserAddRole (set : UnorderedSet String) (roleId : String) (user : NmIamUser) : NmIamUser :=
  { user with roles := set.insert user.roles roleId }

def nmIamUserRemoveRole (set : UnorderedSet String) (roleId : String) (user : NmIamUser) :
    NmIamUser :=
  { user with roles := set.erase user.roles roleId }

def nmIamRemoveRoleFromUser (set : UnorderedSet String) (iam : NmIam) (userId roleId : String) :
    NmIam :=
  { iam with users := updateUser userId (nmIamUserRemoveRole set roleId) iam.users }

def nmIamAddRoleToUser (set : UnorderedSet String) (iam : NmIam) (userId roleId : String) :
    Bool × NmIam :=
  if (nmIamFindUserById iam userId).isNone || (nmIamFindRole iam roleId).isNone then (false, iam)
  else (true, { iam with users := updateUser userId (nmIamUserAddRole set roleId) iam.users })

inductive IamUsersEvent
  | pair (request : PairRequest)
  | deleteUser (userId : String)
  | addRole (userId roleId : String)
  | removeRole (userId roleId : String)
  deriving DecidableEq, Repr

def iamUsersStep (set : UnorderedSet String) (iam : NmIam) : IamUsersEvent → Option NmIam
  | .pair request => ((nmIamPairNewClient set iam request).map Prod.snd).toOption
  | .deleteUser userId => some (nmIamDeleteUser iam userId)
  | .addRole userId roleId => some (nmIamAddRoleToUser set iam userId roleId).2
  | .removeRole userId roleId => some (nmIamRemoveRoleFromUser set iam userId roleId)

def iamUsers (set : UnorderedSet String) (iam : NmIam) : Machine NmIam IamUsersEvent :=
  ⟨iam, iamUsersStep set⟩

end NabtoDevice
