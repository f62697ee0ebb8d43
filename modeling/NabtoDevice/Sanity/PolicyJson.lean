import NabtoDevice.Spec.PolicyJson

/-! What the parsers of conditions and statements have read when they accept a value. -/

namespace NabtoDevice

theorem nmConditionParseOperator_toString (op : NmConditionOperator) :
    nmConditionParseOperator (nmConditionOperatorToString op) = some op := by
  cases op <;> rfl

theorem eq_toString_of_parseOperator {operation : String} {op : NmConditionOperator}
    (h : nmConditionParseOperator operation = some op) :
    operation = nmConditionOperatorToString op := by
  unfold nmConditionParseOperator at h
  split_ifs at h <;> cases h <;> assumption

variable {set : UnorderedSet String}

/-- What the parser has read when it accepts an entry. -/
theorem nmConditionFromJson_cases {entry : Json} {c : NmCondition}
    (h : nmConditionFromJson set entry = some c) :
    ∃ (values : List String) (kvs operations : List (String × Json)),
      entry.members = (nmConditionOperatorToString c.op,
        .object ((c.key, .array (values.map .string)) :: kvs)) :: operations ∧
      c.values = values.foldl set.insert [] := by
  unfold nmConditionFromJson at h
  split at h
  · next operation kvs hhead =>
    split at h
    · next op hop =>
      unfold nmConditionFromJsonParse at h
      split at h
      · next key values hkv =>
        obtain ⟨out, hout, rfl⟩ := Option.map_eq_some_iff.mp h
        obtain ⟨l, rfl, rfl⟩ := Json.exists_of_foldStrings hout
        obtain ⟨operations, hmembers⟩ := List.head?_eq_some_iff.mp hhead
        obtain ⟨more, rfl⟩ := List.head?_eq_some_iff.mp hkv
        exact ⟨l, more, operations, by rw [hmembers, eq_toString_of_parseOperator hop], rfl⟩
      · cases h
    · cases h
  · cases h

/-- Of conditions in an array every entry is read. -/
theorem nmStatementFromJson_conditions {json : Json} {statement : NmStatement} {entries : List Json}
    (h : nmStatementFromJson set json = some statement)
    (hc : json.getObjectItem "Conditions" = some (.array entries)) :
    List.Forall₂ (fun entry c => nmConditionFromJson set entry = some c) entries
      statement.conditions := by
  have hparse : ∀ effect actions,
      nmStatementFromJsonParse set effect actions (some (.array entries)) = some statement →
        List.Forall₂ (fun entry c => nmConditionFromJson set entry = some c) entries
          statement.conditions := by
    intro effect actions hp
    unfold nmStatementFromJsonParse at hp
    split at hp
    · cases hp
    · obtain ⟨conditions, hconds, rfl⟩ := Option.map_eq_some_iff.mp hp
      exact Json.forall₂_of_mapM hconds
  unfold nmStatementFromJson at h
  split at h
  · simp only [hc] at h
    split_ifs at h <;> exact hparse _ _ h
  · cases h

end NabtoDevice
