import NabtoDevice.Sanity.Policy

/-! The access check grants exactly what the policies say when they are read as
sets: some statement of the acting roles allows the action and none of them
denies it or fails. The order of roles, policies and statements has no say. -/

namespace NabtoDevice

/-- Every user has a fingerprint, so that no comparison meets `NULL`. -/
def FingerprintsSet (iam : NmIam) : Prop := ∀ user ∈ iam.users, user.fingerprint.isSome

def actingUser (iam : NmIam) (fingerprint : String) : Option NmIamUser :=
  iam.users.find? fun user => user.fingerprint = some fingerprint

def actingRoles (iam : NmIam) (fingerprint : String) : List String :=
  match actingUser iam fingerprint with
  | some user => user.roles
  | none => ["Unpaired"]

def StatementOf (iam : NmIam) (roles : List String) (statement : NmStatement) : Prop :=
  ∃ roleStr ∈ roles, ∃ role, nmIamFindRole iam roleStr = some role ∧
    ∃ p ∈ role.policies, ∃ policy, nmIamFindPolicy iam p = some policy ∧
      statement ∈ policy.statements

section

variable {μ δ : Type} (map : NnStringMap μ) (num : CDouble δ)

def actingAttributes (iam : NmIam) (fingerprint : String) (attributesIn : Option μ) : μ :=
  match actingUser iam fingerprint with
  | some user => map.insert (copyAttributes map attributesIn) "Connection:UserId" user.id
  | none => copyAttributes map attributesIn

/-- Access as a property of the sets of roles, policies and statements. -/
structure Granted (iam : NmIam) (fingerprint action : String) (attributesIn : Option μ) : Prop where
  rolesExist : ∀ roleStr ∈ actingRoles iam fingerprint, (nmIamFindRole iam roleStr).isSome
  allowed : ∃ statement, StatementOf iam (actingRoles iam fingerprint) statement ∧
    statement.effect = .allow ∧ action ∈ statement.actions ∧
    ∀ c ∈ statement.conditions,
      nmConditionMatches map num c (actingAttributes map iam fingerprint attributesIn) = .isMatch
  notDenied : ∀ statement, StatementOf iam (actingRoles iam fingerprint) statement →
    nmStatementEval map num statement action (actingAttributes map iam fingerprint attributesIn) ≠
      .deny ∧
    nmStatementEval map num statement action (actingAttributes map iam fingerprint attributesIn) ≠
      .error

/-- The search compares no missing fingerprint before it finds the one it looks for. -/
def UsersComparable (fingerprint : String) : List NmIamUser → Prop
  | [] => True
  | user :: rest =>
    user.fingerprint.isSome ∧
      (user.fingerprint ≠ some fingerprint → UsersComparable fingerprint rest)

theorem FingerprintsSet.usersComparable {iam : NmIam} (h : FingerprintsSet iam)
    (fingerprint : String) : UsersComparable fingerprint iam.users := by
  unfold FingerprintsSet at h
  generalize iam.users = users at h ⊢
  induction users with
  | nil => trivial
  | cons user rest ih =>
    rw [List.forall_mem_cons] at h
    exact ⟨h.1, fun _ => ih h.2⟩

theorem findUserByFingerprint_eq {fingerprint : String} {users : List NmIamUser}
    (h : UsersComparable fingerprint users) :
    findUserByFingerprint fingerprint users =
      .ok (users.find? fun user => user.fingerprint = some fingerprint) := by
  induction users with
  | nil => rfl
  | cons user rest ih =>
    obtain ⟨f, hfp⟩ := Option.isSome_iff_exists.mp h.1
    by_cases hf : f = fingerprint
    · simp [findUserByFingerprint, hfp, hf]
    · have hrest := h.2 (by rw [hfp]; simpa using hf)
      simp [findUserByFingerprint, hfp, hf, ih hrest]

theorem mem_policyStatements {iam : NmIam} {policies : List String} {statement : NmStatement} :
    statement ∈ policyStatements iam policies ↔
      ∃ p ∈ policies, ∃ policy, nmIamFindPolicy iam p = some policy ∧
        statement ∈ policy.statements := by
  unfold policyStatements
  rw [List.mem_flatMap]
  refine exists_congr fun p => and_congr_right fun _ => ?_
  cases nmIamFindPolicy iam p <;> simp

/-- The effect of a role is an allow exactly if the role exists, one of its
statements evaluates to allow and none to deny or error. -/
theorem roleEffect_eq_allow (iam : NmIam) (action : String) (attributes : μ) (roleStr : String) :
    roleEffect map num iam action attributes roleStr = .allow ↔
      ∃ role, nmIamFindRole iam roleStr = some role ∧
        (∀ st ∈ policyStatements iam role.policies,
          ¬ (nmStatementEval map num st action attributes).Final) ∧
        ∃ st ∈ policyStatements iam role.policies,
          nmStatementEval map num st action attributes = .allow := by
  cases h : nmIamFindRole iam roleStr with
  | none => simp [roleEffect, h]
  | some role => simp [roleEffect, h, combineEffects_eq_allow]

theorem roleEffect_final (iam : NmIam) (action : String) (attributes : μ) (roleStr : String) :
    (roleEffect map num iam action attributes roleStr).Final ↔
      nmIamFindRole iam roleStr = none ∨
        ∃ role, nmIamFindRole iam roleStr = some role ∧
          ∃ st ∈ policyStatements iam role.policies,
            (nmStatementEval map num st action attributes).Final := by
  cases h : nmIamFindRole iam roleStr with
  | none => simp [roleEffect, h, NmEffect.Final]
  | some role =>
    have htake : ∀ e : NmEffect, e.Final → e.Counts := by
      rintro e (rfl | rfl) <;> simp [NmEffect.Counts]
    simp only [roleEffect, h, combineEffects]
    rw [Sticky.stop_fold htake]
    simp [NmEffect.Final]

/-- No role is final exactly if all of them exist and no statement of theirs is. -/
theorem roles_not_final (iam : NmIam) (action : String) (attributes : μ) (roles : List String) :
    (∀ roleStr ∈ roles, ¬ (roleEffect map num iam action attributes roleStr).Final) ↔
      (∀ roleStr ∈ roles, (nmIamFindRole iam roleStr).isSome) ∧
      ∀ st, StatementOf iam roles st → ¬ (nmStatementEval map num st action attributes).Final := by
  constructor
  · intro h
    refine ⟨fun roleStr hr => ?_, ?_⟩
    · by_contra hne
      apply h roleStr hr
      rw [roleEffect_final]
      exact Or.inl (Option.not_isSome_iff_eq_none.mp hne)
    · rintro st ⟨roleStr, hr, role, hrole, hst⟩ hf
      apply h roleStr hr
      rw [roleEffect_final]
      exact Or.inr ⟨role, hrole, st, mem_policyStatements.mpr hst, hf⟩
  · rintro ⟨hexist, hst⟩ roleStr hr hf
    rw [roleEffect_final] at hf
    rcases hf with hnone | ⟨role, hrole, st, hmem, hf⟩
    · exact absurd (hexist roleStr hr) (by simp [hnone])
    · exact hst st ⟨roleStr, hr, role, hrole, mem_policyStatements.mp hmem⟩ hf

/-- The fold over the role effects allows exactly what the set reading does. -/
theorem combine_roles_eq_allow (iam : NmIam) (action : String) (attributes : μ)
    (roles : List String) :
    combineEffects .noMatch (roles.map (roleEffect map num iam action attributes)) = .allow ↔
      (∀ roleStr ∈ roles, (nmIamFindRole iam roleStr).isSome) ∧
      (∃ st, StatementOf iam roles st ∧ nmStatementEval map num st action attributes = .allow) ∧
      ∀ st, StatementOf iam roles st → ¬ (nmStatementEval map num st action attributes).Final := by
  have hnone : (∀ e ∈ roles.map (roleEffect map num iam action attributes), ¬ e.Final) ↔ _ :=
    List.forall_mem_map.trans (roles_not_final map num iam action attributes roles)
  rw [combineEffects_eq_allow, hnone, List.mem_map]
  constructor
  · rintro ⟨⟨hexist, hst⟩, roleStr, hr, heff⟩
    obtain ⟨role, hrole, -, st, hmem, heval⟩ :=
      (roleEffect_eq_allow map num iam action attributes roleStr).mp heff
    exact ⟨hexist, ⟨st, ⟨roleStr, hr, role, hrole, mem_policyStatements.mp hmem⟩, heval⟩, hst⟩
  · rintro ⟨hexist, ⟨st, ⟨roleStr, hr, role, hrole, hmem⟩, heval⟩, hst⟩
    refine ⟨⟨hexist, hst⟩, roleStr, hr, ?_⟩
    rw [roleEffect_eq_allow]
    refine ⟨role, hrole, fun st' hst' => ?_, st, mem_policyStatements.mpr hmem, heval⟩
    exact hst st' ⟨roleStr, hr, role, hrole, mem_policyStatements.mp hst'⟩

/-- A client without a user is checked like a user whose only role is `Unpaired`. -/
theorem checkAccessEffect_none (iam : NmIam) (action : String) (attributes : μ) :
    checkAccessEffect map num iam none action attributes =
      checkAccessRoles map num iam action attributes .noMatch ["Unpaired"] := by
  simp only [checkAccessEffect, checkAccessRoles]
  cases nmIamFindRole iam "Unpaired" with
  | none => rfl
  | some unpaired =>
    simp only
    cases nmIamCheckAccessRole map num iam unpaired action attributes with
    | error fault => rfl
    | ok effect => cases effect <;> rfl

/-- Without missing fingerprints on its way the check is the loop over the acting roles. -/
theorem nmIamCheckAccess_eq_roles {iam : NmIam} {fingerprint : String} (action : String)
    (attributesIn : Option μ) (hu : UsersComparable fingerprint iam.users) :
    nmIamCheckAccess map num iam (some fingerprint) action attributesIn =
      (checkAccessRoles map num iam action
        (actingAttributes map iam fingerprint attributesIn) .noMatch
        (actingRoles iam fingerprint)).map fun effect => decide (effect = .allow) := by
  have hfind : nmIamFindUserByFingerprint iam fingerprint = .ok (actingUser iam fingerprint) :=
    findUserByFingerprint_eq hu
  simp only [nmIamCheckAccess, hfind, actingRoles, actingAttributes]
  cases actingUser iam fingerprint with
  | some user => rfl
  | none => rw [checkAccessEffect_none]

/-- Without missing policies either it ends with the combined effect of these roles. -/
theorem nmIamCheckAccess_eq {iam : NmIam} {fingerprint action : String} {attributesIn : Option μ}
    (hu : UsersComparable fingerprint iam.users)
    (hr : RolesComplete map num iam action (actingAttributes map iam fingerprint attributesIn)
      (actingRoles iam fingerprint)) :
    nmIamCheckAccess map num iam (some fingerprint) action attributesIn =
      .ok (combineEffects .noMatch ((actingRoles iam fingerprint).map (roleEffect map num iam action
        (actingAttributes map iam fingerprint attributesIn))) = .allow) := by
  rw [nmIamCheckAccess_eq_roles map num action attributesIn hu,
    checkAccessRoles_eq map num hr _ (Or.inl rfl)]
  rfl

theorem granted_iff (iam : NmIam) (fingerprint action : String) (attributesIn : Option μ) :
    Granted map num iam fingerprint action attributesIn ↔
      combineEffects .noMatch ((actingRoles iam fingerprint).map (roleEffect map num iam action
        (actingAttributes map iam fingerprint attributesIn))) = .allow := by
  rw [combine_roles_eq_allow]
  simp only [nmStatementEval_eq_allow, NmEffect.Final, not_or]
  exact ⟨fun h => ⟨h.rolesExist, h.allowed, h.notDenied⟩, fun h => ⟨h.1, h.2.1, h.2.2⟩⟩

end

/-- The same configuration up to the order of each user's roles, each role's
policies and each policy's statements. -/
structure SameUpToOrder (iam iam' : NmIam) : Prop where
  users : List.Forall₂ (fun u u' => u.id = u'.id ∧ u.fingerprint = u'.fingerprint ∧
    u.roles.Perm u'.roles) iam.users iam'.users
  roles : List.Forall₂ (fun r r' => r.id = r'.id ∧ r.policies.Perm r'.policies) iam.roles iam'.roles
  policies : List.Forall₂ (fun p p' => p.id = p'.id ∧ p.statements.Perm p'.statements)
    iam.policies iam'.policies

/-- Searching two related lists with tests that agree finds related elements. -/
theorem find?_of_forall₂ {α : Type} {R : α → α → Prop} {p : α → Bool}
    (hp : ∀ a b, R a b → p a = p b) {l l' : List α} (h : List.Forall₂ R l l') :
    (l.find? p = none ∧ l'.find? p = none) ∨
      ∃ a b, l.find? p = some a ∧ l'.find? p = some b ∧ R a b := by
  induction h with
  | nil => exact Or.inl ⟨rfl, rfl⟩
  | @cons a b l l' hab _ ih =>
    simp only [List.find?_cons, hp a b hab]
    cases p b with
    | true => exact Or.inr ⟨a, b, rfl, rfl, hab⟩
    | false => exact ih

theorem exists_of_forall₂_mem {α β : Type} {R : α → β → Prop} {l : List α} {l' : List β}
    (h : List.Forall₂ R l l') {b : β} (hb : b ∈ l') : ∃ a ∈ l, R a b := by
  induction h with
  | nil => cases hb
  | @cons a b' l l' hab _ ih =>
    rcases List.mem_cons.mp hb with rfl | hb
    · exact ⟨a, List.mem_cons_self, hab⟩
    · obtain ⟨a', ha', hr⟩ := ih hb
      exact ⟨a', List.mem_cons_of_mem _ ha', hr⟩

namespace SameUpToOrder

variable {iam iam' : NmIam}

theorem symm (h : SameUpToOrder iam iam') : SameUpToOrder iam' iam where
  users := (h.users.imp fun _ _ hr => ⟨hr.1.symm, hr.2.1.symm, hr.2.2.symm⟩).flip
  roles := (h.roles.imp fun _ _ hr => ⟨hr.1.symm, hr.2.symm⟩).flip
  policies := (h.policies.imp fun _ _ hr => ⟨hr.1.symm, hr.2.symm⟩).flip

theorem find_role (h : SameUpToOrder iam iam') (roleStr : String) :
    (nmIamFindRole iam roleStr = none ∧ nmIamFindRole iam' roleStr = none) ∨
      ∃ r r', nmIamFindRole iam roleStr = some r ∧ nmIamFindRole iam' roleStr = some r' ∧
        r.id = r'.id ∧ r.policies.Perm r'.policies :=
  find?_of_forall₂ (fun a b hab => by simp only [hab.1]) h.roles

theorem find_policy (h : SameUpToOrder iam iam') (policyStr : String) :
    (nmIamFindPolicy iam policyStr = none ∧ nmIamFindPolicy iam' policyStr = none) ∨
      ∃ p p', nmIamFindPolicy iam policyStr = some p ∧ nmIamFindPolicy iam' policyStr = some p' ∧
        p.id = p'.id ∧ p.statements.Perm p'.statements :=
  find?_of_forall₂ (fun a b hab => by simp only [hab.1]) h.policies

theorem find_user (h : SameUpToOrder iam iam') (fingerprint : String) :
    (actingUser iam fingerprint = none ∧ actingUser iam' fingerprint = none) ∨
      ∃ u u', actingUser iam fingerprint = some u ∧ actingUser iam' fingerprint = some u' ∧
        u.id = u'.id ∧ u.fingerprint = u'.fingerprint ∧ u.roles.Perm u'.roles :=
  find?_of_forall₂ (fun a b hab => by simp only [hab.2.1]) h.users

theorem mem_actingRoles (h : SameUpToOrder iam iam') (fingerprint roleStr : String) :
    roleStr ∈ actingRoles iam fingerprint ↔ roleStr ∈ actingRoles iam' fingerprint := by
  rcases h.find_user fingerprint with ⟨h1, h2⟩ | ⟨u, u', h1, h2, -, -, hperm⟩
  · simp only [actingRoles, h1, h2]
  · simp only [actingRoles, h1, h2]
    exact hperm.mem_iff

theorem actingAttributes_eq {μ : Type} (map : NnStringMap μ) (h : SameUpToOrder iam iam')
    (fingerprint : String) (attributesIn : Option μ) :
    actingAttributes map iam fingerprint attributesIn =
      actingAttributes map iam' fingerprint attributesIn := by
  rcases h.find_user fingerprint with ⟨h1, h2⟩ | ⟨u, u', h1, h2, hid, -, -⟩
  · simp only [actingAttributes, h1, h2]
  · simp only [actingAttributes, h1, h2, hid]

theorem isSome_role (h : SameUpToOrder iam iam') (roleStr : String) :
    (nmIamFindRole iam roleStr).isSome = (nmIamFindRole iam' roleStr).isSome := by
  rcases h.find_role roleStr with ⟨h1, h2⟩ | ⟨r, r', h1, h2, -⟩ <;> simp [h1, h2]

theorem isSome_policy (h : SameUpToOrder iam iam') (policyStr : String) :
    (nmIamFindPolicy iam policyStr).isSome = (nmIamFindPolicy iam' policyStr).isSome := by
  rcases h.find_policy policyStr with ⟨h1, h2⟩ | ⟨p, p', h1, h2, -⟩ <;> simp [h1, h2]

theorem statementOf (h : SameUpToOrder iam iam') {fingerprint : String} {st : NmStatement}
    (hst : StatementOf iam (actingRoles iam fingerprint) st) :
    StatementOf iam' (actingRoles iam' fingerprint) st := by
  obtain ⟨roleStr, hr, role, hrole, p, hp, policy, hpolicy, hmem⟩ := hst
  rcases h.find_role roleStr with ⟨h1, -⟩ | ⟨r, r', h1, h2, -, hperm⟩
  · rw [h1] at hrole
    cases hrole
  rcases h.find_policy p with ⟨h3, -⟩ | ⟨q, q', h3, h4, -, hstperm⟩
  · rw [h3] at hpolicy
    cases hpolicy
  obtain rfl := Option.some.inj (h1.symm.trans hrole)
  obtain rfl := Option.some.inj (h3.symm.trans hpolicy)
  exact ⟨roleStr, (h.mem_actingRoles fingerprint roleStr).mp hr, r', h2, p, hperm.mem_iff.mp hp,
    q', h4, hstperm.mem_iff.mp hmem⟩

theorem granted {μ δ : Type} {map : NnStringMap μ} {num : CDouble δ} (h : SameUpToOrder iam iam')
    {fingerprint action : String} {attributesIn : Option μ}
    (hg : Granted map num iam fingerprint action attributesIn) :
    Granted map num iam' fingerprint action attributesIn where
  rolesExist := by
    intro roleStr hr
    rw [← h.isSome_role]
    exact hg.rolesExist roleStr ((h.mem_actingRoles fingerprint roleStr).mpr hr)
  allowed := by
    obtain ⟨st, hst, heffect, haction, hconds⟩ := hg.allowed
    rw [← h.actingAttributes_eq]
    exact ⟨st, h.statementOf hst, heffect, haction, hconds⟩
  notDenied := by
    intro st hst
    rw [← h.actingAttributes_eq]
    exact hg.notDenied st (h.symm.statementOf hst)

theorem fingerprintsSet (h : SameUpToOrder iam iam') (hf : FingerprintsSet iam) :
    FingerprintsSet iam' := by
  intro u' hu'
  obtain ⟨u, hu, -, hfp, -⟩ := exists_of_forall₂_mem h.users hu'
  rw [← hfp]
  exact hf u hu

theorem policiesExist (h : SameUpToOrder iam iam') (hp : PoliciesExist iam) :
    PoliciesExist iam' := by
  intro r' hr' p hmem
  obtain ⟨r, hr, -, hperm⟩ := exists_of_forall₂_mem h.roles hr'
  rw [← h.isSome_policy]
  exact hp r hr p (hperm.mem_iff.mpr hmem)

end SameUpToOrder

/-- The check returns a verdict, it is true exactly if access is granted, and a
configuration that differs in order only gets the same verdict. -/
theorem check_access_granted_iff {μ δ : Type} (map : NnStringMap μ) (num : CDouble δ) (iam : NmIam)
    (hp : PoliciesExist iam) (hf : FingerprintsSet iam) (fingerprint action : String)
    (attributesIn : Option μ) :
    (∃ verdict,
      nmIamCheckAccess map num iam (some fingerprint) action attributesIn = .ok verdict ∧
        (verdict = true ↔ Granted map num iam fingerprint action attributesIn)) ∧
    ∀ iam', SameUpToOrder iam iam' →
      nmIamCheckAccess map num iam' (some fingerprint) action attributesIn =
        nmIamCheckAccess map num iam (some fingerprint) action attributesIn := by
  have heq (iam : NmIam) (hp : PoliciesExist iam) (hf : FingerprintsSet iam) :=
    @nmIamCheckAccess_eq μ δ map num iam fingerprint action attributesIn
      (hf.usersComparable fingerprint) (hp.rolesComplete map num action _ _)
  refine ⟨⟨_, heq iam hp hf, ?_⟩, ?_⟩
  · rw [granted_iff, decide_eq_true_iff]
  · intro iam' h
    rw [heq iam hp hf, heq iam' (h.policiesExist hp) (h.fingerprintsSet hf)]
    simp only [← granted_iff, Except.ok.injEq, decide_eq_decide]
    exact ⟨h.symm.granted, h.granted⟩

def assocMap : NnStringMap (List (String × String)) where
  init := []
  insert m k v := (k, v) :: m.filter fun kv => kv.1 ≠ k
  get m k := m.lookup k
  toList m := m

/-- `strtod` on strings that start with decimal digits, enough for the numbers below. -/
def digitsDouble : CDouble ℕ where
  strtod s := ((s.toList.takeWhile Char.isDigit).foldl (fun n c => 10 * n + (c.toNat - 48)) 0,
    s.toList.dropWhile Char.isDigit)
  eq a b := a == b
  lt a b := a < b
  le a b := a ≤ b

def doorsStatement : NmStatement where
  effect := .allow
  actions := ["Open"]
  conditions := [⟨.numericLessThanEquals, "Level", ["3"]⟩,
    ⟨.stringEquals, "Connection:UserId", ["0", "1"]⟩]

def safeStatement : NmStatement where
  effect := .deny
  actions := ["Open"]
  conditions := [⟨.bool, "Safe", ["true"]⟩]

def houseIam : NmIam where
  users := [{ id := "1", roles := ["Guest", "All"], fingerprint := some "f1" }]
  roles := [⟨"Guest", ["Doors"]⟩, ⟨"All", ["NoSafe"]⟩]
  policies := [⟨"Doors", [doorsStatement]⟩, ⟨"NoSafe", [safeStatement]⟩]

theorem check_access_granted_iff_house :
    PoliciesExist houseIam ∧ FingerprintsSet houseIam ∧
    nmIamCheckAccess assocMap digitsDouble houseIam (some "f1") "Open" (some [("Level", "2")]) =
      .ok true ∧
    Granted assocMap digitsDouble houseIam "f1" "Open" (some [("Level", "2")]) := by
  have hp : PoliciesExist houseIam := by unfold PoliciesExist; decide +kernel
  have hf : FingerprintsSet houseIam := by unfold FingerprintsSet; decide +kernel
  have hrun : nmIamCheckAccess assocMap digitsDouble houseIam (some "f1") "Open"
      (some [("Level", "2")]) = .ok true := by decide +kernel
  obtain ⟨⟨verdict, hok, hiff⟩, -⟩ := check_access_granted_iff assocMap digitsDouble houseIam hp hf
    "f1" "Open" (some [("Level", "2")])
  rw [hrun, Except.ok.injEq] at hok
  exact ⟨hp, hf, hrun, hiff.mp hok.symm⟩

end NabtoDevice
