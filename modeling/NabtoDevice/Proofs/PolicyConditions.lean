import NabtoDevice.Proofs.Iam
import NabtoDevice.Sanity.PolicyJson

/-! The conditions of a policy in JSON, read independently of the parser: every operator of an
entry with every key is a test of its own. A statement allows only what passes all of its tests
exactly if the parser reads its conditions in full. -/

namespace NabtoDevice

structure WrittenTest where
  operation : String
  key : String
  values : Json

def entryTests (entry : Json) : List WrittenTest :=
  entry.members.flatMap fun operation => operation.2.members.map fun kv => ⟨operation.1, kv.1, kv.2⟩

def writtenTests (statement : Json) : List WrittenTest :=
  (statement.named "Conditions").flatMap fun conditions => conditions.items.flatMap entryTests

def writtenStatements (json : Json) : List Json :=
  ((json.getObjectItem "Statements").map Json.items).getD []

def RepresentableEntry (entry : Json) : Prop :=
  ∃ (op : NmConditionOperator) (key : String) (values : List String),
    entry = .object [(nmConditionOperatorToString op, .object [(key, .array (values.map .string))])]

structure Representable (statement : Json) : Prop where
  once : (statement.named "Conditions").length ≤ 1
  entries : ∀ conditions ∈ statement.named "Conditions",
    ∃ entries, conditions = .array entries ∧ ∀ entry ∈ entries, RepresentableEntry entry

/-- The statement has nothing behind what the parser reads: no second member "Conditions", no
second operator in an entry and no second key of an operator, and its conditions are an array. -/
def ReadInFull (statement : Json) : Prop :=
  (statement.named "Conditions").length ≤ 1 ∧
    ∀ conditions ∈ statement.named "Conditions", conditions.isArray = true ∧
      ∀ entry ∈ conditions.items, entry.members.length ≤ 1 ∧
        ∀ operation ∈ entry.members, operation.2.members.length ≤ 1

instance : DecidablePred ReadInFull := fun _ => inferInstanceAs (Decidable (_ ∧ _))

section

variable (set : UnorderedSet String) {μ δ : Type} (map : NnStringMap μ) (num : CDouble δ)

def WrittenTest.Matches (t : WrittenTest) (attributes : μ) : Prop :=
  ∃ (op : NmConditionOperator) (values : List String),
    nmConditionParseOperator t.operation = some op ∧ t.values = .array (values.map .string) ∧
      nmConditionMatches map num ⟨op, t.key, values.foldl set.insert []⟩ attributes = .isMatch

/-- A statement that allows an action has passed all of its tests, and no statement of the
policy says more than conditions can. -/
structure ConditionsEnforced (json : Json) (policy : NmPolicy) : Prop where
  enforced : List.Forall₂ (fun written statement => ∀ action attributes,
      nmStatementEval map num statement action attributes = .allow →
        ∀ t ∈ writtenTests written, t.Matches set map num attributes)
    (writtenStatements json) policy.statements
  representable : ∀ written ∈ writtenStatements json, Representable written

end

variable {written : Json}

section

variable {set : UnorderedSet String} {μ δ : Type} {map : NnStringMap μ} {num : CDouble δ}

theorem nmPolicyFromJson_statements {json : Json} {policy : NmPolicy}
    (h : nmPolicyFromJson set json = some policy) :
    List.Forall₂ (fun written statement => nmStatementFromJson set written = some statement)
      (writtenStatements json) policy.statements := by
  unfold nmPolicyFromJson at h
  split at h
  · next id statements hid hstatements =>
    obtain ⟨out, hout, rfl⟩ := Option.map_eq_some_iff.mp h
    simp only [writtenStatements, hstatements, Option.map_some, Option.getD_some, Json.items]
    exact Json.forall₂_of_mapM hout
  · cases h

theorem eq_nil_of_length_cons_le {α : Type} {a : α} {l : List α} (h : (a :: l).length ≤ 1) :
    l = [] :=
  List.length_eq_zero_iff.mp (Nat.le_zero.mp (Nat.le_of_succ_le_succ h))

/-- An entry that is accepted and read in full is one test, the one of its condition. -/
theorem entry_of_readInFull {entry : Json} {c : NmCondition}
    (h : nmConditionFromJson set entry = some c) (hops : entry.members.length ≤ 1)
    (hkeys : ∀ operation ∈ entry.members, operation.2.members.length ≤ 1) :
    ∃ values : List String, c.values = values.foldl set.insert [] ∧
      entry = .object [(nmConditionOperatorToString c.op,
        .object [(c.key, .array (values.map .string))])] := by
  obtain ⟨values, kvs, operations, hmembers, hvalues⟩ := nmConditionFromJson_cases h
  rw [hmembers] at hops hkeys
  obtain rfl := eq_nil_of_length_cons_le hops
  obtain rfl := eq_nil_of_length_cons_le (hkeys _ List.mem_cons_self)
  refine ⟨values, hvalues, ?_⟩
  have hne : entry.members ≠ [] := by rw [hmembers]; exact List.cons_ne_nil _ _
  rw [Json.eq_object_of_members_ne_nil hne, hmembers]

theorem entryTests_matches {entry : Json} {c : NmCondition} {attributes : μ}
    (h : nmConditionFromJson set entry = some c) (hops : entry.members.length ≤ 1)
    (hkeys : ∀ operation ∈ entry.members, operation.2.members.length ≤ 1)
    (hc : nmConditionMatches map num c attributes = .isMatch) {t : WrittenTest}
    (ht : t ∈ entryTests entry) : t.Matches set map num attributes := by
  obtain ⟨values, hvalues, rfl⟩ := entry_of_readInFull h hops hkeys
  obtain rfl : t = ⟨nmConditionOperatorToString c.op, c.key, .array (values.map .string)⟩ := by
    simpa [entryTests, Json.members] using ht
  refine ⟨c.op, values, nmConditionParseOperator_toString c.op, rfl, ?_⟩
  rw [← hvalues]
  exact hc

theorem getObjectItem_conditions {conditions : Json} (hfull : ReadInFull written)
    (hmem : conditions ∈ written.named "Conditions") :
    written.getObjectItem "Conditions" = some (.array conditions.items) := by
  obtain ⟨hone, hread⟩ := hfull
  rw [Json.getObjectItem_eq_head?, ← Json.eq_array_of_isArray (hread conditions hmem).1]
  cases hn : written.named "Conditions" with
  | nil => rw [hn] at hmem; cases hmem
  | cons first more =>
    rw [hn] at hone hmem
    obtain rfl := eq_nil_of_length_cons_le hone
    rw [List.mem_singleton.mp hmem]
    rfl

/-- A statement that is read in full has passed its tests when it allows something. -/
theorem writtenTests_match {statement : NmStatement}
    (h : nmStatementFromJson set written = some statement)
    (hfull : ReadInFull written) {action : String} {attributes : μ}
    (heval : nmStatementEval map num statement action attributes = .allow) {t : WrittenTest}
    (ht : t ∈ writtenTests written) : t.Matches set map num attributes := by
  obtain ⟨conditions, hmem, ht⟩ := List.mem_flatMap.mp ht
  obtain ⟨entry, hentry, ht⟩ := List.mem_flatMap.mp ht
  have hfirst := getObjectItem_conditions hfull hmem
  obtain ⟨hops, hkeys⟩ := (hfull.2 conditions hmem).2 entry hentry
  obtain ⟨c, hcmem, hc⟩ :=
    exists_of_forall₂_mem (nmStatementFromJson_conditions h hfirst).flip hentry
  have hmatch :=
    ((nmStatementEval_eq_allow map num statement action attributes).mp heval).2.2 c hcmem
  exact entryTests_matches hc hops hkeys hmatch ht

theorem readInFull_of_representable (h : Representable written) : ReadInFull written := by
  refine ⟨h.once, ?_⟩
  intro conditions hmem
  obtain ⟨entries, rfl, hentries⟩ := h.entries conditions hmem
  refine ⟨rfl, ?_⟩
  intro entry hentry
  obtain ⟨op, key, values, rfl⟩ := hentries entry hentry
  simp [Json.members]

theorem representable_of_readInFull {statement : NmStatement}
    (h : nmStatementFromJson set written = some statement)
    (hfull : ReadInFull written) : Representable written := by
  refine ⟨hfull.1, ?_⟩
  intro conditions hmem
  obtain ⟨harray, hentries⟩ := hfull.2 conditions hmem
  refine ⟨conditions.items, Json.eq_array_of_isArray harray, ?_⟩
  intro entry hentry
  obtain ⟨c, -, hc⟩ :=
    exists_of_forall₂_mem
      (nmStatementFromJson_conditions h (getObjectItem_conditions hfull hmem)).flip hentry
  obtain ⟨values, -, rfl⟩ :=
    entry_of_readInFull hc (hentries entry hentry).1 (hentries entry hentry).2
  exact ⟨c.op, c.key, values, rfl⟩

/-- A policy that is accepted enforces every condition written in it if and only if the parser
reads the conditions of all its statements in full. -/
theorem conditions_enforced_iff (set : UnorderedSet String) (map : NnStringMap μ) (num : CDouble δ)
    {json : Json} {policy : NmPolicy} (h : nmPolicyFromJson set json = some policy) :
    ConditionsEnforced set map num json policy ↔
      ∀ written ∈ writtenStatements json, ReadInFull written := by
  have hread := nmPolicyFromJson_statements h
  constructor
  · intro henforced written hmem
    exact readInFull_of_representable (henforced.representable written hmem)
  · intro hfull
    constructor
    · rw [List.forall₂_iff_zip] at hread ⊢
      refine ⟨hread.1, ?_⟩
      intro written statement hzip action attributes heval t ht
      exact writtenTests_match (hread.2 hzip) (hfull written (List.of_mem_zip hzip).1) heval ht
    · intro written hmem
      obtain ⟨statement, -, hs⟩ := exists_of_forall₂_mem hread.flip hmem
      exact representable_of_readInFull hs (hfull written hmem)

end

def doorsJson (conditions : Json) : Json :=
  .object [("Id", .string "Doors"),
    ("Statements",
      .array [.object [("Effect", .string "Allow"), ("Actions", .array [.string "Open"]),
        ("Conditions", conditions)]])]

def doorAndLevelJson : Json :=
  .array [.object [("StringEquals", .object [("Door", .array [.string "front", .string "back"])])],
    .object [("NumericLessThanEquals", .object [("Level", .array [.string "3"])])]]

theorem conditions_enforced_doors :
    ∃ policy, nmPolicyFromJson .inOrder (doorsJson doorAndLevelJson) = some policy ∧
      nmPolicyEval assocMap digitsDouble .noMatch policy "Open" [("Door", "back"), ("Level", "2")] =
        .allow ∧
      ConditionsEnforced .inOrder assocMap digitsDouble (doorsJson doorAndLevelJson) policy := by
  refine ⟨_, rfl, by decide +kernel, ?_⟩
  rw [conditions_enforced_iff .inOrder assocMap digitsDouble rfl]
  decide +kernel

def doorAndAlarmJson : Json :=
  .array [.object [("StringEquals", .object [("Door", .array [.string "front"])]),
    ("Bool", .object [("Alarm", .array [.string "false"])])]]

def bareDoorJson : Json := .object [("StringEquals", .object [("Door", .array [.string "front"])])]

/-- The front door opens although the alarm is on, and with bare conditions every door does. -/
theorem conditions_passed_over :
    (∃ policy, nmPolicyFromJson .inOrder (doorsJson doorAndAlarmJson) = some policy ∧
      nmPolicyEval assocMap digitsDouble .noMatch policy "Open"
        [("Door", "front"), ("Alarm", "true")] =
        .allow ∧
      nmConditionMatches assocMap digitsDouble ⟨.bool, "Alarm", ["false"]⟩
        [("Door", "front"), ("Alarm", "true")] = .noMatch ∧
      ¬ ConditionsEnforced .inOrder assocMap digitsDouble (doorsJson doorAndAlarmJson) policy) ∧
    ∃ policy, nmPolicyFromJson .inOrder (doorsJson bareDoorJson) = some policy ∧
      nmPolicyEval assocMap digitsDouble .noMatch policy "Open" [("Door", "cellar")] = .allow ∧
      ¬ ConditionsEnforced .inOrder assocMap digitsDouble (doorsJson bareDoorJson) policy := by
  have hnot {json : Json} {policy : NmPolicy}
      (h : ∃ written ∈ writtenStatements json, ¬ ReadInFull written) :
      ¬ ConditionsEnforced .inOrder assocMap digitsDouble json policy := by
    obtain ⟨written, hmem, hfull⟩ := h
    intro henforced
    exact hfull (readInFull_of_representable (henforced.representable written hmem))
  refine ⟨⟨_, rfl, by decide +kernel, by decide +kernel, hnot ?_⟩, _, rfl, by decide +kernel,
    hnot ?_⟩ <;> exact ⟨_, List.mem_cons_self, by decide +kernel⟩

end NabtoDevice
