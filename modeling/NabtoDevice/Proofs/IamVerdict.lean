import NabtoDevice.Proofs.Iam
import NabtoDevice.Spec.IamJson

/-! When the access check of a state loaded from JSON reaches a verdict. Users may come without
a fingerprint and roles may name policies that do not exist; the check dereferences `NULL` on
the first of these that it meets. -/

namespace NabtoDevice

def NamesMissingPolicy (iam : NmIam) (fingerprint : String) : Prop :=
  ∃ roleStr ∈ actingRoles iam fingerprint, ¬ RoleComplete iam roleStr

section

variable {μ δ : Type} (map : NnStringMap μ) (num : CDouble δ)

/-- The check reaches a verdict, and the verdict is a denial if a policy is missing. -/
def SafeVerdict (iam : NmIam) (fingerprint action : String) (attributesIn : Option μ) : Prop :=
  ∃ verdict, nmIamCheckAccess map num iam (some fingerprint) action attributesIn = .ok verdict ∧
    (NamesMissingPolicy iam fingerprint → verdict = false)

theorem findUserByFingerprint_eq_error {fingerprint : String} {users : List NmIamUser}
    (h : ¬ UsersComparable fingerprint users) :
    findUserByFingerprint fingerprint users = .error .strcmpNull := by
  induction users with
  | nil => exact absurd trivial h
  | cons user rest ih =>
    cases hfp : user.fingerprint with
    | none => simp only [findUserByFingerprint, hfp]
    | some f =>
      obtain ⟨hne, hrest⟩ : user.fingerprint ≠ some fingerprint ∧
          ¬ UsersComparable fingerprint rest :=
        Classical.not_imp.mp fun himp => h ⟨by rw [hfp]; rfl, himp⟩
      have hf : f ≠ fingerprint := fun heq => hne (by rw [hfp, heq])
      simp only [findUserByFingerprint, hfp, if_neg hf]
      exact ih hrest

/-- A missing policy that the check meets is a fault. -/
theorem nmIamCheckAccess_eq_error {iam : NmIam} {fingerprint action : String}
    {attributesIn : Option μ} (hu : UsersComparable fingerprint iam.users)
    (hr : ¬ RolesComplete map num iam action (actingAttributes map iam fingerprint attributesIn)
      (actingRoles iam fingerprint)) :
    nmIamCheckAccess map num iam (some fingerprint) action attributesIn = .error .policyNull := by
  rw [nmIamCheckAccess_eq_roles map num action attributesIn hu,
    checkAccessRoles_eq_error map num hr]
  rfl

/-- A missing policy that the check does not meet lies behind a role that denies or fails. -/
theorem not_allow_of_namesMissingPolicy {iam : NmIam} {fingerprint action : String} {attributes : μ}
    (hr : RolesComplete map num iam action attributes (actingRoles iam fingerprint))
    (hmissing : NamesMissingPolicy iam fingerprint) :
    combineEffects .noMatch ((actingRoles iam fingerprint).map
      (roleEffect map num iam action attributes)) ≠ .allow := by
  intro hallow
  rw [combineEffects_eq_allow, List.forall_mem_map] at hallow
  obtain ⟨roleStr, hmem, hincomplete⟩ := hmissing
  exact hincomplete (hr.roleComplete map num hallow.1 roleStr hmem)

theorem safeVerdict_iff (iam : NmIam) (fingerprint action : String) (attributesIn : Option μ) :
    SafeVerdict map num iam fingerprint action attributesIn ↔
      UsersComparable fingerprint iam.users ∧
        RolesComplete map num iam action (actingAttributes map iam fingerprint attributesIn)
          (actingRoles iam fingerprint) := by
  constructor
  · rintro ⟨verdict, hok, -⟩
    have hu : UsersComparable fingerprint iam.users := by
      by_contra hu
      have herr : nmIamFindUserByFingerprint iam fingerprint = .error .strcmpNull :=
        findUserByFingerprint_eq_error hu
      simp only [nmIamCheckAccess, herr] at hok
      cases hok
    refine ⟨hu, ?_⟩
    by_contra hr
    rw [nmIamCheckAccess_eq_error map num hu hr] at hok
    cases hok
  · rintro ⟨hu, hr⟩
    refine ⟨_, nmIamCheckAccess_eq map num hu hr, ?_⟩
    intro hmissing
    exact decide_eq_false (not_allow_of_namesMissingPolicy map num hr hmissing)

/-- On every state loaded from JSON, the check reaches a verdict that no missing policy could
have changed if and only if every user it compares has a fingerprint and every role it evaluates
names existing policies. -/
theorem check_access_safe_iff (set : UnorderedSet String) (strings : UnorderedMap String String)
    (users roles policies : List Json) (fingerprint action : String) (attributesIn : Option μ) :
    SafeVerdict map num (iamFromJson set strings users roles policies) fingerprint action
        attributesIn ↔
      UsersComparable fingerprint (iamFromJson set strings users roles policies).users ∧
        RolesComplete map num (iamFromJson set strings users roles policies) action
          (actingAttributes map
            (iamFromJson set strings users roles policies) fingerprint attributesIn)
          (actingRoles (iamFromJson set strings users roles policies) fingerprint) :=
  safeVerdict_iff map num _ fingerprint action attributesIn

end

def unpairedUserJson : Json :=
  .object [("Id", .string "1"), ("Roles", .array [.string "Admin"])]

def unpairedRoleJson : Json :=
  .object [("Id", .string "Unpaired"), ("Policies", .array [.string "Pairing"])]

theorem check_access_on_null :
    nmIamCheckAccess assocMap digitsDouble (iamFromJson .inOrder .inOrder [unpairedUserJson] [] [])
      (some "f1") "Pairing:Password" none = .error .strcmpNull ∧
    nmIamCheckAccess assocMap digitsDouble (iamFromJson .inOrder .inOrder [] [unpairedRoleJson] [])
      (some "f1") "Pairing:Password" none = .error .policyNull ∧
    ¬ SafeVerdict assocMap digitsDouble
      (iamFromJson .inOrder .inOrder [unpairedUserJson] [unpairedRoleJson] [])
      "f1" "Pairing:Password" none := by
  have hrun : nmIamCheckAccess assocMap digitsDouble
      (iamFromJson .inOrder .inOrder [unpairedUserJson] [unpairedRoleJson] [])
      (some "f1") "Pairing:Password" none = .error .strcmpNull := by decide +kernel
  refine ⟨by decide +kernel, by decide +kernel, ?_⟩
  rintro ⟨verdict, hok, -⟩
  cases hok

end NabtoDevice
