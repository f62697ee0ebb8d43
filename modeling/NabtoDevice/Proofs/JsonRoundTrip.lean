import NabtoDevice.Sanity.PolicyJson
import NabtoDevice.Spec.IamJson

/-! Policies, roles and users come back from JSON as they were written. Their sets and maps come
back in some order. -/

namespace NabtoDevice

/-- What the constructors build: statements allow or deny, and sets have no element twice. -/
structure NmStatement.Built (s : NmStatement) : Prop where
  effect : s.effect = .allow ∨ s.effect = .deny
  actions : s.actions.Nodup
  conditions : ∀ c ∈ s.conditions, c.values.Nodup

def NmPolicy.Built (p : NmPolicy) : Prop := ∀ s ∈ p.statements, s.Built

structure NmIamUser.Built (u : NmIamUser) : Prop where
  roles : u.roles.Nodup
  attributes : (u.attributes.map Prod.fst).Nodup

structure SameCondition (c c' : NmCondition) : Prop where
  op : c'.op = c.op
  key : c'.key = c.key
  values : c'.values.Perm c.values

structure SameStatement (s s' : NmStatement) : Prop where
  effect : s'.effect = s.effect
  actions : s'.actions.Perm s.actions
  conditions : List.Forall₂ SameCondition s.conditions s'.conditions

structure SamePolicy (p p' : NmPolicy) : Prop where
  id : p'.id = p.id
  statements : List.Forall₂ SameStatement p.statements p'.statements

structure SameRole (r r' : NmIamRole) : Prop where
  id : r'.id = r.id
  policies : r'.policies.Perm r.policies

structure SameUser (u u' : NmIamUser) : Prop where
  id : u'.id = u.id
  roles : u'.roles.Perm u.roles
  fingerprint : u'.fingerprint = u.fingerprint
  serverConnectToken : u'.serverConnectToken = u.serverConnectToken
  attributes : u'.attributes.Perm u.attributes

section

variable (set : UnorderedSet String) (map : UnorderedMap String String)

theorem foldStrings_of_nodup {l : List String} (h : l.Nodup) :
    ∃ out, Json.foldStrings set.insert [] (l.map .string) = some out ∧ out.Perm l :=
  ⟨_, Json.foldStrings_map_string set.insert [] l, set.foldl_insert_perm h⟩

theorem nmCondition_round_trip {c : NmCondition} (h : c.values.Nodup) :
    ∃ c', nmConditionFromJson set (nmConditionToJson c) = some c' ∧ SameCondition c c' := by
  obtain ⟨values, hvalues, hperm⟩ := foldStrings_of_nodup set h
  refine ⟨⟨c.op, c.key, values⟩, ?_, ⟨rfl, rfl, hperm⟩⟩
  simp [nmConditionFromJson, nmConditionToJson, Json.members, nmStringSetToJson,
    nmConditionParseOperator_toString, nmConditionFromJsonParse, hvalues]

/-- The conditions that are written, or none if there is no member for them. -/
theorem nmStatementFromJsonParse_round_trip (effect : NmEffect) {actions : List String}
    {conditions : List NmCondition} (ha : actions.Nodup) (hc : ∀ c ∈ conditions, c.values.Nodup) :
    ∃ s', nmStatementFromJsonParse set effect (actions.map .string)
        (if conditions.isEmpty then none else some (nmConditionsToJson conditions)) = some s' ∧
      SameStatement ⟨effect, actions, conditions⟩ s' := by
  obtain ⟨actions', hactions, hperm⟩ := foldStrings_of_nodup set ha
  obtain ⟨conditions', hconds, hsame⟩ :=
    Json.exists_mapM_of_forall fun c hmem => nmCondition_round_trip set (hc c hmem)
  refine ⟨⟨effect, actions', conditions'⟩, ?_, ⟨rfl, hperm, hsame⟩⟩
  cases conditions with
  | nil =>
    cases hsame
    simp [nmStatementFromJsonParse, hactions]
  | cons c rest =>
    simp only [nmStatementFromJsonParse, hactions, nmConditionsToJson, List.isEmpty_cons,
      Bool.false_eq_true, if_false, hconds, Option.map_some]

/-- The parser finds the members of a written statement. -/
theorem getObjectItem_nmStatementToJson {s : NmStatement} {effect : String}
    (h : effectMembers s.effect = [("Effect", .string effect)]) :
    (nmStatementToJson s).getObjectItem "Effect" = some (.string effect) ∧
      (nmStatementToJson s).getObjectItem "Actions" = some (.array (s.actions.map .string)) ∧
      (nmStatementToJson s).getObjectItem "Conditions" =
        if s.conditions.isEmpty then none else some (nmConditionsToJson s.conditions) := by
  cases hc : s.conditions <;>
    simp +decide [nmStatementToJson, h, hc, Json.getObjectItem_cons, nmStringSetToJson]

theorem nmStatement_round_trip {s : NmStatement} (h : s.Built) :
    ∃ s', nmStatementFromJson set (nmStatementToJson s) = some s' ∧ SameStatement s s' := by
  obtain ⟨s', hparse, hsame⟩ :=
    nmStatementFromJsonParse_round_trip set s.effect h.actions h.conditions
  refine ⟨s', ?_, hsame⟩
  rcases h.effect with heffect | heffect
  · have hallow : effectMembers s.effect = [("Effect", .string "Allow")] := by rw [heffect]; rfl
    obtain ⟨he, ha, hc⟩ := getObjectItem_nmStatementToJson hallow
    simp only [nmStatementFromJson, he, ha, hc, if_pos, ← heffect]
    exact hparse
  · have hdeny : effectMembers s.effect = [("Effect", .string "Deny")] := by rw [heffect]; rfl
    obtain ⟨he, ha, hc⟩ := getObjectItem_nmStatementToJson hdeny
    simp only [nmStatementFromJson, he, ha, hc, String.reduceEq, if_false, if_pos, ← heffect]
    exact hparse

theorem nmPolicy_round_trip {p : NmPolicy} (h : p.Built) :
    ∃ p', nmPolicyFromJson set (nmPolicyToJson p) = some p' ∧ SamePolicy p p' := by
  obtain ⟨statements, hread, hsame⟩ :=
    Json.exists_mapM_of_forall fun s hmem => nmStatement_round_trip set (h s hmem)
  refine ⟨⟨p.id, statements⟩, ?_, ⟨rfl, hsame⟩⟩
  simp +decide [nmPolicyFromJson, nmPolicyToJson, nmStatementsToJson,
    Json.getObjectItem_cons, hread]

theorem nmIamRole_round_trip {r : NmIamRole} (h : r.policies.Nodup) :
    ∃ r', nmIamRoleFromJson set (nmIamRoleToJson r) = some r' ∧ SameRole r r' := by
  refine ⟨⟨r.id, r.policies.foldl set.insert []⟩, ?_, ⟨rfl, set.foldl_insert_perm h⟩⟩
  simp +decide [nmIamRoleFromJson, nmIamRoleToJson, Json.getObjectItem_cons,
    Json.foldStringsOnly_map_string]

theorem loadAttributes_map (attributes kvs : List (String × String)) :
    loadAttributes map attributes (kvs.map fun kv => (kv.1, .string kv.2)) =
      kvs.foldl (fun m kv => map.insert m kv.1 kv.2) attributes := by
  induction kvs generalizing attributes with
  | nil => rfl
  | cons kv kvs ih => exact ih (map.insert attributes kv.1 kv.2)

@[simp] theorem getObjectItem_optionalMember (other name : String) (s : Option String) :
    (Json.object (optionalMember other s)).getObjectItem name =
      if Json.sameName other name then s.map .string else none := by
  cases s <;> simp [optionalMember, Json.getObjectItem_cons]

@[simp] theorem getObjectItem_rolesMember (name : String) (roles : List String) :
    (Json.object (rolesMember roles)).getObjectItem name =
      if Json.sameName "Roles" name ∧
        roles ≠ [] then some (.array (roles.map .string)) else none := by
  cases roles <;> simp [rolesMember, Json.getObjectItem_cons]

@[simp] theorem getObjectItem_attributesMember (name : String)
    (attributes : List (String × String)) :
    (Json.object (attributesMember attributes)).getObjectItem name =
      if Json.sameName "Attributes" name ∧ attributes ≠ [] then
        some (.object (attributes.map fun kv => (kv.1, .string kv.2)))
      else none := by
  cases attributes <;> simp [attributesMember, Json.getObjectItem_cons]

/-- The members are looked up in the order in which they are written. -/
theorem getObjectItem_nmIamUserToJson (u : NmIamUser) (name : String) :
    (nmIamUserToJson u).getObjectItem name =
      if Json.sameName "Id" name then some (.string u.id)
      else ((Json.object (optionalMember "Fingerprint" u.fingerprint)).getObjectItem name).or
        (((Json.object (optionalMember "ServerConnectToken" u.serverConnectToken)).getObjectItem name).or
          (((Json.object (rolesMember u.roles)).getObjectItem name).or
            ((Json.object (attributesMember u.attributes)).getObjectItem name))) := by
  simp only [nmIamUserToJson, Json.getObjectItem_cons, Json.getObjectItem_append]

theorem nmIamUser_round_trip {u : NmIamUser} (h : u.Built) :
    ∃ u', nmIamUserFromJson set map (nmIamUserToJson u) = some u' ∧ SameUser u u' := by
  have hid : (nmIamUserToJson u).getObjectItem "Id" = some (.string u.id) := by
    simp +decide [getObjectItem_nmIamUserToJson]
  have hfp : (nmIamUserToJson u).getObjectItem "Fingerprint" = u.fingerprint.map .string := by
    simp +decide [getObjectItem_nmIamUserToJson]
  have htoken : (nmIamUserToJson u).getObjectItem "ServerConnectToken" =
      u.serverConnectToken.map .string := by
    simp +decide [getObjectItem_nmIamUserToJson]
  -- an empty set or map has no member and is read as empty
  have hroles : (((nmIamUserToJson u).getObjectItem "Roles").map Json.items).getD [] =
      u.roles.map .string := by
    by_cases hr : u.roles = [] <;> simp +decide [getObjectItem_nmIamUserToJson, hr, Json.items]
  have hattrs : (((nmIamUserToJson u).getObjectItem "Attributes").map Json.members).getD [] =
      u.attributes.map fun kv => (kv.1, .string kv.2) := by
    by_cases ha : u.attributes = [] <;>
      simp +decide [getObjectItem_nmIamUserToJson, ha, Json.members]
  refine ⟨{ id := u.id, roles := u.roles.foldl set.insert [], fingerprint := u.fingerprint,
            serverConnectToken := u.serverConnectToken,
            attributes := u.attributes.foldl (fun m kv => map.insert m kv.1 kv.2) [] },
    ?_, ⟨rfl, set.foldl_insert_perm h.roles, rfl, rfl, map.foldl_insert_perm h.attributes⟩⟩
  simp only [nmIamUserFromJson, hid, hfp, htoken, hroles, hattrs, Json.map_string_bind_string?,
    Json.foldStringsOnly_map_string, loadAttributes_map]

/-- Decoding what was encoded gives the same policy, role or user, up to the order of sets and
maps. -/
theorem json_round_trip :
    (∀ p : NmPolicy, p.Built →
      ∃ p', nmPolicyFromJson set (nmPolicyToJson p) = some p' ∧ SamePolicy p p') ∧
    (∀ r : NmIamRole, r.policies.Nodup →
      ∃ r', nmIamRoleFromJson set (nmIamRoleToJson r) = some r' ∧ SameRole r r') ∧
    ∀ u : NmIamUser, u.Built →
      ∃ u', nmIamUserFromJson set map (nmIamUserToJson u) = some u' ∧ SameUser u u' :=
  ⟨fun _ h => nmPolicy_round_trip set h, fun _ h => nmIamRole_round_trip set h,
    fun _ h => nmIamUser_round_trip set map h⟩

end

def frontDoorStatement : NmStatement where
  effect := .allow
  actions := ["Open", "Lock"]
  conditions := [⟨.stringEquals, "Door", ["front"]⟩, ⟨.numericLessThanEquals, "Level", ["3", "4"]⟩]

def frontDoorPolicy : NmPolicy := ⟨"Doors", [frontDoorStatement, ⟨.deny, [], []⟩]⟩

def pairedUser : NmIamUser where
  id := "1"
  roles := ["Guest", "All"]
  fingerprint := some "f1"
  attributes := [("Name", "first"), ("name", "second")]

/-- With attributes whose names differ in case only. -/
theorem json_round_trip_doors :
    frontDoorPolicy.Built ∧ pairedUser.Built ∧
    (∃ p', nmPolicyFromJson .inOrder (nmPolicyToJson frontDoorPolicy) = some p' ∧
      SamePolicy frontDoorPolicy p') ∧
    (∃ r', nmIamRoleFromJson .inOrder (nmIamRoleToJson ⟨"Guest", ["Doors", "Doorbell"]⟩) = some r' ∧
      SameRole ⟨"Guest", ["Doors", "Doorbell"]⟩ r') ∧
    ∃ u', nmIamUserFromJson .inOrder .inOrder (nmIamUserToJson pairedUser) = some u' ∧
      SameUser pairedUser u' := by
  have hp : frontDoorPolicy.Built := by
    intro s hs
    simp only [frontDoorPolicy, List.mem_cons, List.not_mem_nil, or_false] at hs
    rcases hs with rfl | rfl
    · exact ⟨Or.inl rfl, by decide, by decide⟩
    · exact ⟨Or.inr rfl, by decide, by decide⟩
  have hu : pairedUser.Built := ⟨by decide, by decide⟩
  obtain ⟨hpolicy, hrole, huser⟩ := json_round_trip .inOrder .inOrder
  exact ⟨hp, hu, hpolicy _ hp, hrole _ (by decide), huser _ hu⟩

end NabtoDevice
