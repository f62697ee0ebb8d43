import NabtoDevice.Lib.Json
import NabtoDevice.Lib.Unordered
import NabtoDevice.Spec.Policy

/-! Policies as JSON, `src/modules/policies/nm_policies_from_json.c` and
`src/modules/policies/nm_policies_to_json.c`. A parser returns `none` where the code returns
`NULL`. Allocations succeed. The string set of `nabto-common` is the parameter `set`. -/

namespace NabtoDevice

def nmConditionParseOperator (operation : String) : Option NmConditionOperator :=
  if operation = "StringEquals" then some .stringEquals
  else if operation = "StringNotEquals" then some .stringNotEquals
  else if operation = "NumericEquals" then some .numericEquals
  else if operation = "NumericNotEquals" then some .numericNotEquals
  else if operation = "NumericLessThan" then some .numericLessThan
  else if operation = "NumericLessThanEquals" then some .numericLessThanEquals
  else if operation = "NumericGreaterThan" then some .numericGreaterThan
  else if operation = "NumericGreaterThanEquals" then some .numericGreaterThanEquals
  else if operation = "Bool" then some .bool
  else none

def nmConditionOperatorToString : NmConditionOperator → String
  | .stringEquals => "StringEquals"
  | .stringNotEquals => "StringNotEquals"
  | .numericEquals => "NumericEquals"
  | .numericNotEquals => "NumericNotEquals"
  | .numericLessThan => "NumericLessThan"
  | .numericLessThanEquals => "NumericLessThanEquals"
  | .numericGreaterThan => "NumericGreaterThan"
  | .numericGreaterThanEquals => "NumericGreaterThanEquals"
  | .bool => "Bool"

section

variable (set : UnorderedSet String)

/-- `kv` is the first member of the operation. -/
def nmConditionFromJsonParse (op : NmConditionOperator) (kv : Option (String × Json)) :
    Option NmCondition :=
  match kv with
  | some (key, .array values) =>
    (Json.foldStrings set.insert [] values).map fun values => ⟨op, key, values⟩
  | _ => none

/-- The operation is the first member of the entry. -/
def nmConditionFromJson (json : Json) : Option NmCondition :=
  match json.members.head? with
  | some (operation, .object kvs) =>
    match nmConditionParseOperator operation with
    | some op => nmConditionFromJsonParse set op kvs.head?
    | none => none
  | _ => none

/-- Conditions that are no array are passed over. -/
def nmStatementFromJsonParse (effect : NmEffect) (actions : List Json) (conditions : Option Json) :
    Option NmStatement :=
  match Json.foldStrings set.insert [] actions with
  | none => none
  | some actions =>
    match conditions with
    | some (.array conditions) =>
      (conditions.mapM (nmConditionFromJson set)).map fun conditions =>
        ⟨effect, actions, conditions⟩
    | _ => some ⟨effect, actions, []⟩

def nmStatementFromJson (json : Json) : Option NmStatement :=
  match json.getObjectItem "Effect", json.getObjectItem "Actions" with
  | some (.string effect), some (.array actions) =>
    let conditions := json.getObjectItem "Conditions"
    if effect = "Allow" then nmStatementFromJsonParse set .allow actions conditions
    else if effect = "Deny" then nmStatementFromJsonParse set .deny actions conditions
    else none
  | _, _ => none

def nmPolicyFromJson (json : Json) : Option NmPolicy :=
  match json.getObjectItem "Id", json.getObjectItem "Statements" with
  | some (.string id), some (.array statements) =>
    (statements.mapM (nmStatementFromJson set)).map fun statements => ⟨id, statements⟩
  | _, _ => none

end

def nmStringSetToJson (set : List String) : Json := .array (set.map .string)

def nmConditionToJson (condition : NmCondition) : Json :=
  .object [(nmConditionOperatorToString condition.op,
    .object [(condition.key, nmStringSetToJson condition.values)])]

def nmConditionsToJson (conditions : List NmCondition) : Json :=
  .array (conditions.map nmConditionToJson)

/-- The effects that are not written are neither allow nor deny. -/
def effectMembers : NmEffect → List (String × Json)
  | .allow => [("Effect", .string "Allow")]
  | .deny => [("Effect", .string "Deny")]
  | _ => []

def nmStatementToJson (statement : NmStatement) : Json :=
  .object (effectMembers statement.effect ++
    [("Actions", nmStringSetToJson statement.actions)] ++
    if statement.conditions.isEmpty then []
    else [("Conditions", nmConditionsToJson statement.conditions)])

def nmStatementsToJson (statements : List NmStatement) : Json :=
  .array (statements.map nmStatementToJson)

def nmPolicyToJson (policy : NmPolicy) : Json :=
  .object [("Id", .string policy.id), ("Statements", nmStatementsToJson policy.statements)]

end NabtoDevice
