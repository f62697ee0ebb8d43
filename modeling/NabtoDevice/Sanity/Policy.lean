import NabtoDevice.Lib.Sticky
import NabtoDevice.Spec.Iam

/-! The loops of the policy evaluation as folds. Evaluating the statements of a
role and combining the roles of a user are both the fold of `Lib.Sticky` that
freezes on deny and error and otherwise keeps an allow. -/

namespace NabtoDevice

def NmEffect.Final (e : NmEffect) : Prop := e = .deny ∨ e = .error

/-- Everything but a missing match changes the state of an evaluation. -/
def NmEffect.Counts (e : NmEffect) : Prop := e = .error ∨ e = .deny ∨ e = .allow

instance : DecidablePred NmEffect.Final := fun e => by unfold NmEffect.Final; infer_instance

instance : DecidablePred NmEffect.Counts := fun e => by unfold NmEffect.Counts; infer_instance

def combineEffects (acc : NmEffect) (es : List NmEffect) : NmEffect :=
  Sticky.fold NmEffect.Final NmEffect.Counts acc es

theorem combineEffects_eq_allow (es : List NmEffect) :
    combineEffects .noMatch es = .allow ↔ (∀ e ∈ es, ¬ e.Final) ∧ .allow ∈ es := by
  unfold combineEffects
  rw [Sticky.fold_eq_iff]
  · simp [NmEffect.Final]
  · intro e he
    rcases he with rfl | rfl <;> simp [NmEffect.Counts]
  · simp [NmEffect.Final]
  · simp [NmEffect.Counts]
  · intro e hc hf
    cases e <;> simp_all [NmEffect.Counts, NmEffect.Final]

section

variable {μ δ : Type} (map : NnStringMap μ) (num : CDouble δ)

theorem matchConditions_eq_isMatch (attributes : μ) (conditions : List NmCondition) :
    matchConditions map num attributes conditions = .isMatch ↔
      ∀ c ∈ conditions, nmConditionMatches map num c attributes = .isMatch := by
  induction conditions with
  | nil => simp [matchConditions]
  | cons c rest ih =>
    rw [List.forall_mem_cons, ← ih]
    cases hc : nmConditionMatches map num c attributes <;> simp [matchConditions, hc]

theorem nmStatementEval_eq_allow (statement : NmStatement) (action : String) (attributes : μ) :
    nmStatementEval map num statement action attributes = .allow ↔
      statement.effect = .allow ∧ action ∈ statement.actions ∧
        ∀ c ∈ statement.conditions, nmConditionMatches map num c attributes = .isMatch := by
  rw [← matchConditions_eq_isMatch]
  unfold nmStatementEval
  by_cases ha : action ∈ statement.actions
  · cases hc : matchConditions map num attributes statement.conditions <;> simp [ha]
  · simp [ha]

theorem nmPolicyStatementEval_eq_step (effect : NmEffect) (statement : NmStatement)
    (action : String) (attributes : μ) :
    nmPolicyStatementEval map num effect statement action attributes =
      Sticky.step NmEffect.Final NmEffect.Counts effect
        (nmStatementEval map num statement action attributes) := rfl

theorem nmPolicyEval_eq (effect : NmEffect) (policy : NmPolicy) (action : String) (attributes : μ) :
    nmPolicyEval map num effect policy action attributes =
      combineEffects effect
        (policy.statements.map fun st => nmStatementEval map num st action attributes) := by
  unfold nmPolicyEval combineEffects Sticky.fold
  rw [List.foldl_map]
  simp only [nmPolicyStatementEval_eq_step]

def policyStatements (iam : NmIam) (policies : List String) : List NmStatement :=
  policies.flatMap fun p => ((nmIamFindPolicy iam p).map NmPolicy.statements).getD []

theorem checkAccessPolicies_eq (iam : NmIam) (action : String) (attributes : μ)
    (policies : List String) (hp : ∀ p ∈ policies, (nmIamFindPolicy iam p).isSome)
    (effect : NmEffect) :
    checkAccessPolicies map num iam action attributes effect policies =
      .ok (combineEffects effect ((policyStatements iam policies).map
        fun st => nmStatementEval map num st action attributes)) := by
  induction policies generalizing effect with
  | nil => rfl
  | cons p rest ih =>
    rw [List.forall_mem_cons] at hp
    obtain ⟨policy, hpolicy⟩ := Option.isSome_iff_exists.mp hp.1
    simp only [checkAccessPolicies, hpolicy]
    rw [ih hp.2, nmPolicyEval_eq]
    simp only [policyStatements, List.flatMap_cons, hpolicy, Option.map_some, Option.getD_some,
      List.map_append, combineEffects, Sticky.fold_append]

/-- The verdict of one role name of a user, where an unknown role is an error. -/
def roleEffect (iam : NmIam) (action : String) (attributes : μ) (roleStr : String) : NmEffect :=
  match nmIamFindRole iam roleStr with
  | none => .error
  | some role => combineEffects .noMatch ((policyStatements iam role.policies).map
      fun st => nmStatementEval map num st action attributes)

def PoliciesExist (iam : NmIam) : Prop :=
  ∀ role ∈ iam.roles, ∀ p ∈ role.policies, (nmIamFindPolicy iam p).isSome

theorem nmIamFindRole_mem {iam : NmIam} {roleStr : String} {role : NmIamRole}
    (h : nmIamFindRole iam roleStr = some role) : role ∈ iam.roles :=
  List.mem_of_find?_eq_some h

def RoleComplete (iam : NmIam) (roleStr : String) : Prop :=
  ∀ role ∈ nmIamFindRole iam roleStr, ∀ p ∈ role.policies, (nmIamFindPolicy iam p).isSome

instance (iam : NmIam) (roleStr : String) : Decidable (RoleComplete iam roleStr) :=
  inferInstanceAs (Decidable (∀ role ∈ nmIamFindRole iam roleStr, _))

/-- The loop over the roles reaches no role with a missing policy. It stops at a role that is
unknown, denies or fails. -/
def RolesComplete (iam : NmIam) (action : String) (attributes : μ) : List String → Prop
  | [] => True
  | roleStr :: rest =>
    RoleComplete iam roleStr ∧
      (¬ (roleEffect map num iam action attributes roleStr).Final →
        RolesComplete iam action attributes rest)

theorem PoliciesExist.roleComplete {iam : NmIam} (hp : PoliciesExist iam) (roleStr : String) :
    RoleComplete iam roleStr :=
  fun role hrole => hp role (nmIamFindRole_mem hrole)

theorem PoliciesExist.rolesComplete {iam : NmIam} (hp : PoliciesExist iam) (action : String)
    (attributes : μ) (roles : List String) : RolesComplete map num iam action attributes roles := by
  induction roles with
  | nil => trivial
  | cons roleStr rest ih => exact ⟨hp.roleComplete roleStr, fun _ => ih⟩

/-- If nothing stops the loop, it reaches all roles. -/
theorem RolesComplete.roleComplete {iam : NmIam} {action : String} {attributes : μ}
    {roles : List String} (h : RolesComplete map num iam action attributes roles)
    (hfinal : ∀ r ∈ roles, ¬ (roleEffect map num iam action attributes r).Final) :
    ∀ r ∈ roles, RoleComplete iam r := by
  induction roles with
  | nil => exact fun r hr => absurd hr List.not_mem_nil
  | cons roleStr rest ih =>
    rw [List.forall_mem_cons] at hfinal ⊢
    exact ⟨h.1, ih (h.2 hfinal.1) hfinal.2⟩

theorem nmIamCheckAccessRole_eq {iam : NmIam} (action : String) (attributes : μ) {roleStr : String}
    {role : NmIamRole} (hp : RoleComplete iam roleStr) (h : nmIamFindRole iam roleStr = some role) :
    nmIamCheckAccessRole map num iam role action attributes =
      .ok (roleEffect map num iam action attributes roleStr) := by
  unfold nmIamCheckAccessRole
  rw [checkAccessPolicies_eq map num iam action attributes role.policies (hp role h)]
  simp only [roleEffect, h]

/-- The first missing policy is passed on as `NULL`, whatever the effect is by then. -/
theorem checkAccessPolicies_eq_error (iam : NmIam) (action : String) (attributes : μ)
    {policies : List String} (hp : ¬ ∀ p ∈ policies, (nmIamFindPolicy iam p).isSome)
    (effect : NmEffect) :
    checkAccessPolicies map num iam action attributes effect policies = .error .policyNull := by
  induction policies generalizing effect with
  | nil => exact absurd (fun p h => absurd h List.not_mem_nil) hp
  | cons p rest ih =>
    cases hpolicy : nmIamFindPolicy iam p with
    | none => simp only [checkAccessPolicies, hpolicy]
    | some policy =>
      simp only [checkAccessPolicies, hpolicy]
      apply ih
      intro hrest
      exact hp (List.forall_mem_cons.mpr ⟨by rw [hpolicy]; rfl, hrest⟩)

theorem nmIamCheckAccessRole_eq_error {iam : NmIam} (action : String) (attributes : μ)
    {roleStr : String} {role : NmIamRole} (hp : ¬ RoleComplete iam roleStr)
    (h : nmIamFindRole iam roleStr = some role) :
    nmIamCheckAccessRole map num iam role action attributes = .error .policyNull := by
  apply checkAccessPolicies_eq_error
  intro hall
  apply hp
  intro role' hrole'
  obtain rfl := Option.some.inj (h.symm.trans hrole')
  exact hall

/-- The early returns of the loop over the roles do what the frozen fold does. -/
theorem checkAccessRoles_eq {iam : NmIam} {action : String} {attributes : μ} {roles : List String}
    (hroles : RolesComplete map num iam action attributes roles) (result : NmEffect)
    (hr : result = .noMatch ∨ result = .allow) :
    checkAccessRoles map num iam action attributes result roles =
      .ok (combineEffects result (roles.map (roleEffect map num iam action attributes))) := by
  induction roles generalizing result with
  | nil => rfl
  | cons roleStr rest ih =>
    have hfinal : ¬ result.Final := by rcases hr with rfl | rfl <;> simp [NmEffect.Final]
    cases hrole : nmIamFindRole iam roleStr with
    | none =>
      have heff : roleEffect map num iam action attributes roleStr = .error := by
        simp only [roleEffect, hrole]
      have hstop : NmEffect.Final .error := Or.inr rfl
      simp only [checkAccessRoles, hrole, List.map_cons, heff, combineEffects, Sticky.fold_cons]
      rw [show Sticky.step NmEffect.Final NmEffect.Counts result .error = .error by
        simp [Sticky.step, hfinal, NmEffect.Counts], Sticky.fold_of_stop hstop]
    | some role =>
      simp only [checkAccessRoles, hrole,
        nmIamCheckAccessRole_eq map num action attributes hroles.1 hrole, List.map_cons,
          combineEffects, Sticky.fold_cons]
      have hnext := hroles.2
      generalize roleEffect map num iam action attributes roleStr = e at hnext ⊢
      by_cases he : e = .error ∨ e = .deny
      · have hstop : e.Final := he.symm
        have hcounts : e.Counts := by rcases he with rfl | rfl <;> simp [NmEffect.Counts]
        rw [if_pos he, show Sticky.step NmEffect.Final NmEffect.Counts result e = e by
          simp [Sticky.step, hfinal, hcounts], Sticky.fold_of_stop hstop]
      · rw [if_neg he, ih (hnext fun hstop => he hstop.symm) _ (by split_ifs <;> simp [hr])]
        have hstep : Sticky.step NmEffect.Final NmEffect.Counts result e =
            if e = .allow then .allow else result := by
          cases e <;> simp_all [Sticky.step, NmEffect.Counts]
        rw [hstep, combineEffects]

/-- A role with a missing policy that the loop reaches ends it with a fault. -/
theorem checkAccessRoles_eq_error {iam : NmIam} {action : String} {attributes : μ}
    {roles : List String} (hroles : ¬ RolesComplete map num iam action attributes roles)
    (result : NmEffect) :
    checkAccessRoles map num iam action attributes result roles = .error .policyNull := by
  induction roles generalizing result with
  | nil => exact absurd trivial hroles
  | cons roleStr rest ih =>
    cases hrole : nmIamFindRole iam roleStr with
    | none =>
      -- an unknown role is complete and final
      refine absurd ⟨?_, fun hfinal => absurd ?_ hfinal⟩ hroles
      · intro role hmem
        rw [hrole] at hmem
        cases hmem
      · simp only [roleEffect, hrole]
        exact Or.inr rfl
    | some role =>
      simp only [checkAccessRoles, hrole]
      by_cases hc : RoleComplete iam roleStr
      · have hrest : ¬ (roleEffect map num iam action attributes roleStr).Final ∧
            ¬ RolesComplete map num iam action attributes rest :=
          Classical.not_imp.mp fun himp => hroles ⟨hc, himp⟩
        have hgo : ¬ (roleEffect map num iam action attributes roleStr = .error ∨
            roleEffect map num iam action attributes roleStr = .deny) :=
          fun he => hrest.1 he.symm
        simp only [nmIamCheckAccessRole_eq map num action attributes hc hrole, if_neg hgo]
        exact ih hrest.2 _
      · simp only [nmIamCheckAccessRole_eq_error map num action attributes hc hrole]

end

end NabtoDevice
