import Mathlib.Tactic.Common

/-! Policies and their evaluation, `src/modules/policies`. The string map of
`nabto-common` and the C library's `strtod` are not part of the repository, so
they are the parameters `map` and `num`. -/

namespace NabtoDevice

/-- `enum nm_effect`. -/
inductive NmEffect
  | allow
  | deny
  | noMatch
  | error
  deriving DecidableEq, Repr

/-- `enum nm_condition_operator`. -/
inductive NmConditionOperator
  | stringEquals
  | stringNotEquals
  | numericEquals
  | numericNotEquals
  | numericLessThan
  | numericLessThanEquals
  | numericGreaterThan
  | numericGreaterThanEquals
  | bool
  deriving DecidableEq, Repr

/-- `enum nm_condition_result`. -/
inductive NmConditionResult
  | isMatch
  | noMatch
  | error
  deriving DecidableEq, Repr

structure NmCondition where
  op : NmConditionOperator
  key : String
  values : List String
  deriving DecidableEq, Repr

structure NmStatement where
  effect : NmEffect
  actions : List String
  conditions : List NmCondition
  deriving DecidableEq, Repr

structure NmPolicy where
  id : String
  statements : List NmStatement
  deriving DecidableEq, Repr

/-- The operations of `nn_string_map` that the policies use. `toList` is the
iteration from `nn_string_map_begin` to the end. -/
structure NnStringMap (μ : Type) where
  init : μ
  insert : μ → String → String → μ
  get : μ → String → Option String
  toList : μ → List (String × String)

/-- `double` with `strtod`, which returns the value and the unparsed rest. -/
structure CDouble (δ : Type) where
  strtod : String → δ × List Char
  eq : δ → δ → Bool
  lt : δ → δ → Bool
  le : δ → δ → Bool

section

variable {μ δ : Type} (map : NnStringMap μ) (num : CDouble δ)

def nmConditionParseBool (value : String) : Option Bool :=
  if value = "true" then some true
  else if value = "false" then some false
  else none

/-- The value counts as a number when `strtod` read all of it. -/
def nmConditionParseNumeric (value : String) : Option δ :=
  let (out, err) := num.strtod value
  if err = [] then some out else none

def status (s : Bool) : NmConditionResult := if s then .isMatch else .noMatch

def nmConditionNumericOperator (op : NmConditionOperator) (lhs rhs : String) : NmConditionResult :=
  match nmConditionParseNumeric num lhs, nmConditionParseNumeric num rhs with
  | some lhsDouble, some rhsDouble =>
    match op with
    | .numericEquals => status (num.eq lhsDouble rhsDouble)
    | .numericNotEquals => status (!num.eq lhsDouble rhsDouble)
    | .numericLessThan => status (num.lt lhsDouble rhsDouble)
    | .numericLessThanEquals => status (num.le lhsDouble rhsDouble)
    | .numericGreaterThan => status (num.lt rhsDouble lhsDouble)
    | .numericGreaterThanEquals => status (num.le rhsDouble lhsDouble)
    | .stringEquals | .stringNotEquals | .bool => .error
  | _, _ => .error

def boolEquals (lhs rhs : String) : NmConditionResult :=
  match nmConditionParseBool lhs, nmConditionParseBool rhs with
  | some lhsBool, some rhsBool => status (lhsBool == rhsBool)
  | _, _ => .error

def stringEquals (lhs rhs : String) : NmConditionResult := status (decide (lhs = rhs))

def stringNotEquals (lhs rhs : String) : NmConditionResult := status (decide (lhs ≠ rhs))

/-- The static function `match` of `nm_condition.c`. -/
def matchOperator (op : NmConditionOperator) (lhs rhs : String) : NmConditionResult :=
  match op with
  | .stringEquals => stringEquals lhs rhs
  | .stringNotEquals => stringNotEquals lhs rhs
  | .numericEquals | .numericNotEquals | .numericLessThan | .numericLessThanEquals
  | .numericGreaterThan | .numericGreaterThanEquals => nmConditionNumericOperator num op lhs rhs
  | .bool => boolEquals lhs rhs

/-- A value of the form `$\{variable}` stands for an attribute, any other for itself. -/
def resolveValue (attributes : μ) (value : String) : Option String :=
  let cs := value.toList
  if cs.length < 3 then some value
  else if cs.take 2 = ['$', '{'] ∧ cs.getLast? = some '}' then
    map.get attributes (String.ofList (cs.drop 2).dropLast)
  else some value

def matchValues (op : NmConditionOperator) (attributes : μ) (attributeValue : String) :
    List String → NmConditionResult
  | [] => .noMatch
  | v :: vs =>
    match resolveValue map attributes v with
    | none => matchValues op attributes attributeValue vs
    | some resolvedValue =>
      match matchOperator num op attributeValue resolvedValue with
      | .noMatch => matchValues op attributes attributeValue vs
      | r => r

def nmConditionMatches (condition : NmCondition) (attributes : μ) : NmConditionResult :=
  match map.get attributes condition.key with
  | none => .noMatch
  | some attributeValue =>
    matchValues map num condition.op attributes attributeValue condition.values

/-- The loop returns the first result that is not a match. -/
def matchConditions (attributes : μ) : List NmCondition → NmConditionResult
  | [] => .isMatch
  | condition :: rest =>
    match nmConditionMatches map num condition attributes with
    | .isMatch => matchConditions attributes rest
    | r => r

def nmStatementEval (statement : NmStatement) (action : String) (attributes : μ) : NmEffect :=
  if action ∉ statement.actions then .noMatch
  else match matchConditions map num attributes statement.conditions with
    | .noMatch => .noMatch
    | .error => .error
    | .isMatch => statement.effect

def nmPolicyStatementEval (effect : NmEffect) (statement : NmStatement) (action : String)
    (attributes : μ) : NmEffect :=
  if effect = .deny ∨ effect = .error then effect
  else
    let e := nmStatementEval map num statement action attributes
    if e = .error ∨ e = .deny ∨ e = .allow then e else effect

def nmPolicyEval (effect : NmEffect) (policy : NmPolicy) (action : String) (attributes : μ) :
    NmEffect :=
  policy.statements.foldl
    (fun effect statement =>
      nmPolicyStatementEval map num effect statement action attributes) effect

end

end NabtoDevice
