import NabtoDevice.Spec.Iam
import NabtoDevice.Spec.PolicyJson

/-! Users and roles as JSON, `src/modules/iam/nm_iam_from_json.c` and
`src/modules/iam/nm_iam_to_json.c`. Items of the wrong type are passed over. Allocations
succeed. -/

namespace NabtoDevice

section

variable (set : UnorderedSet String) (map : UnorderedMap String String)

def nmIamRoleFromJson (json : Json) : Option NmIamRole :=
  match json.getObjectItem "Id", json.getObjectItem "Policies" with
  | some (.string id), some (.array policies) =>
    some ⟨id, Json.foldStringsOnly set.insert [] policies⟩
  | _, _ => none

def loadAttributes (attributes : List (String × String)) :
    List (String × Json) → List (String × String)
  | [] => attributes
  | (key, .string value) :: rest => loadAttributes (map.insert attributes key value) rest
  | _ :: rest => loadAttributes attributes rest

def nmIamUserFromJson (json : Json) : Option NmIamUser :=
  match json.getObjectItem "Id" with
  | some (.string id) =>
    some {
      id := id
      fingerprint := (json.getObjectItem "Fingerprint").bind Json.string?
      serverConnectToken := (json.getObjectItem "ServerConnectToken").bind Json.string?
      roles := Json.foldStringsOnly set.insert []
        (((json.getObjectItem "Roles").map Json.items).getD [])
      attributes := loadAttributes map []
        (((json.getObjectItem "Attributes").map Json.members).getD []) }
  | _ => none

/-- The state after the accepted values were added with `nm_iam_add_user`, `nm_iam_add_role` and
`nm_iam_add_policy`. -/
def iamFromJson (users roles policies : List Json) : NmIam where
  users := users.filterMap (nmIamUserFromJson set map)
  roles := roles.filterMap (nmIamRoleFromJson set)
  policies := policies.filterMap (nmPolicyFromJson set)

end

def nmIamRoleToJson (role : NmIamRole) : Json :=
  .object [("Id", .string role.id), ("Policies", .array (role.policies.map .string))]

/-- A member for a string that may be `NULL`. -/
def optionalMember (name : String) : Option String → List (String × Json)
  | some s => [(name, .string s)]
  | none => []

def rolesMember (roles : List String) : List (String × Json) :=
  if roles.isEmpty then [] else [("Roles", .array (roles.map .string))]

def attributesMember (attributes : List (String × String)) : List (String × Json) :=
  if attributes.isEmpty then []
  else [("Attributes", .object (attributes.map fun kv => (kv.1, .string kv.2)))]

def nmIamUserToJson (user : NmIamUser) : Json :=
  .object (("Id", .string user.id) :: (optionalMember "Fingerprint" user.fingerprint ++
    (optionalMember "ServerConnectToken" user.serverConnectToken ++
      (rolesMember user.roles ++ attributesMember user.attributes))))

end NabtoDevice
