import NabtoDevice.Proofs.IamUsers

/-! What a client may do depends on its own user, the roles and the policies only. Changes of
other users do not reach it. -/

namespace NabtoDevice

section

variable {μ δ : Type} (map : NnStringMap μ) (num : CDouble δ)

theorem checkAccessPolicies_users (iam : NmIam) (users : List NmIamUser) (action : String)
    (attributes : μ) (policies : List String) (effect : NmEffect) :
    checkAccessPolicies map num { iam with users := users } action attributes effect policies =
      checkAccessPolicies map num iam action attributes effect policies := by
  induction policies generalizing effect with
  | nil => rfl
  | cons p rest ih =>
    have hfind : nmIamFindPolicy { iam with users := users } p = nmIamFindPolicy iam p := rfl
    simp only [checkAccessPolicies, hfind, ih]

theorem checkAccessRoles_users (iam : NmIam) (users : List NmIamUser) (action : String)
    (attributes : μ) (roles : List String) (result : NmEffect) :
    checkAccessRoles map num { iam with users := users } action attributes result roles =
      checkAccessRoles map num iam action attributes result roles := by
  induction roles generalizing result with
  | nil => rfl
  | cons r rest ih =>
    have hfind : nmIamFindRole { iam with users := users } r = nmIamFindRole iam r := rfl
    simp only [checkAccessRoles, hfind, nmIamCheckAccessRole, checkAccessPolicies_users, ih]

/-- Two states with the same roles and policies and the same user for a fingerprint give the
same verdict for it. -/
theorem nmIamCheckAccess_congr {iam iam' : NmIam} (hf : FingerprintsSet iam)
    (hf' : FingerprintsSet iam') (hroles : iam'.roles = iam.roles)
    (hpolicies : iam'.policies = iam.policies) {f : String}
    (huser : actingUser iam' f = actingUser iam f) (action : String) (attributesIn : Option μ) :
    nmIamCheckAccess map num iam' (some f) action attributesIn =
      nmIamCheckAccess map num iam (some f) action attributesIn := by
  have hacting : actingRoles iam' f = actingRoles iam f := by simp only [actingRoles, huser]
  have hattributes : actingAttributes map iam' f attributesIn =
      actingAttributes map iam f attributesIn := by
    simp only [actingAttributes, huser]
  have hiam' : iam' = { iam with users := iam'.users } := by rw [← hroles, ← hpolicies]
  rw [nmIamCheckAccess_eq_roles map num action attributesIn (hf.usersComparable f),
    nmIamCheckAccess_eq_roles map num action attributesIn (hf'.usersComparable f), hacting,
    hattributes, hiam', checkAccessRoles_users]

end

/-- The event is about the client with the fingerprint: it pairs, or its user is deleted or gets
other roles. -/
def Concerns (iam : NmIam) (f : String) : IamUsersEvent → Prop
  | .pair request => request.fingerprint = some f
  | e => ∃ user, actingUser iam f = some user ∧ e.userId = some user.id

/-- Erasing an element other than the one found does not change what is found. -/
theorem find?_eraseP {α : Type} {p q : α → Bool} {l : List α}
    (h : ∀ a, l.find? p = some a → q a = false) : (l.eraseP q).find? p = l.find? p := by
  induction l with
  | nil => rfl
  | cons a l ih =>
    cases hp : p a with
    | true =>
      have hq : q a = false := h a (by simp [hp])
      simp [hq, hp]
    | false =>
      have hl : ∀ b, l.find? p = some b → q b = false := fun b hb => h b (by simpa [hp] using hb)
      cases hq : q a with
      | true => simp [hq, hp]
      | false => simp [hq, hp, ih hl]

theorem find?_updateUser {p : NmIamUser → Bool} {f : NmIamUser → NmIamUser} {userId : String}
    (hpf : ∀ u, p (f u) = p u) {users : List NmIamUser}
    (h : ∀ u, users.find? p = some u → u.id ≠ userId) :
    (updateUser userId f users).find? p = users.find? p := by
  induction users with
  | nil => rfl
  | cons user rest ih =>
    unfold updateUser
    cases hp : p user with
    | true =>
      have hne : user.id ≠ userId := h user (by simp [hp])
      simp [hne, hp]
    | false =>
      have hrest : ∀ u, rest.find? p = some u → u.id ≠ userId :=
        fun u hu => h u (by simpa [hp] using hu)
      split_ifs
      · simp [hpf, hp]
      · simp [hp, ih hrest]

/-- A step that does not concern a client leaves its user alone. -/
theorem actingUser_move {iam iam' : NmIam} {e : IamUsersEvent} {f : String}
    (hmove : IamMove iam e iam') (h : ¬ Concerns iam f e) :
    iam'.roles = iam.roles ∧ iam'.policies = iam.policies ∧
      actingUser iam' f = actingUser iam f := by
  have hid {userId : String} (he : e.userId = some userId) :
      ∀ u, actingUser iam f = some u → u.id ≠ userId := by
    rintro u hu rfl
    cases e with
    | pair request => cases he
    | _ => exact h ⟨u, hu, he⟩
  cases hmove with
  | same => exact ⟨rfl, rfl, rfl⟩
  | erased he =>
    exact ⟨rfl, rfl, find?_eraseP fun u hu => decide_eq_false (hid he u hu)⟩
  | updated he _ hfp =>
    exact ⟨rfl, rfl, find?_updateUser (fun u => by rw [hfp]) (hid he)⟩
  | @added request g sct id hf hu _ =>
    have hne : g ≠ f := by
      rintro rfl
      exact h hf
    refine ⟨rfl, rfl, ?_⟩
    simp [actingUser, nmIamAddUser, newUser, List.find?_append, hne]

/-- Over a run that does not concern a client, its user stays as it was, and so does what it may
do. -/
theorem actingUser_run {set : UnorderedSet String} {iam₀ iam : NmIam} {evs : List IamUsersEvent}
    {f : String} (h : DistinctUsers iam₀) (hrun : (iamUsers set iam₀).Run evs iam)
    (hevs : ∀ e ∈ evs, ¬ Concerns iam₀ f e) :
    iam.roles = iam₀.roles ∧ iam.policies = iam₀.policies ∧
      actingUser iam f = actingUser iam₀ f := by
  induction hrun with
  | nil => exact ⟨rfl, rfl, rfl⟩
  | @snoc evs iam e iam' hrun hs ih =>
    have hpre := ih fun e he => hevs e (List.mem_append_left _ he)
    have hmove := iamMove_of_step (distinctUsers_run h hrun).fingerprintsSet hs
    -- the user is the one from the start, so the event does not concern it now either
    have hnot : ¬ Concerns iam f e := by
      have hlast := hevs e (List.mem_append_right _ (List.mem_singleton_self e))
      cases e <;> simpa only [Concerns, hpre.2.2] using hlast
    obtain ⟨hroles, hpolicies, huser⟩ := actingUser_move hmove hnot
    exact ⟨hroles.trans hpre.1, hpolicies.trans hpre.2.1, huser.trans hpre.2.2⟩

/-- Two states with distinct users that agree on the roles, the policies and the user of a client
give the client the same verdicts; so pairing other clients, deleting other users and changing
their roles does not change what a client may do. -/
theorem check_access_isolated {μ δ : Type} (map : NnStringMap μ) (num : CDouble δ)
    (set : UnorderedSet String) {iam : NmIam} (h : DistinctUsers iam) (f : String) :
    (∀ iam', DistinctUsers iam' → iam'.roles = iam.roles → iam'.policies = iam.policies →
      actingUser iam' f = actingUser iam f → ∀ action attributesIn,
        nmIamCheckAccess map num iam' (some f) action attributesIn =
          nmIamCheckAccess map num iam (some f) action attributesIn) ∧
    ∀ evs iam', (iamUsers set iam).Run evs iam' → (∀ e ∈ evs, ¬ Concerns iam f e) →
      ∀ action attributesIn,
        nmIamCheckAccess map num iam' (some f) action attributesIn =
          nmIamCheckAccess map num iam (some f) action attributesIn := by
  constructor
  · intro iam' h' hroles hpolicies huser action attributesIn
    exact nmIamCheckAccess_congr map num h.fingerprintsSet h'.fingerprintsSet hroles hpolicies huser
      action attributesIn
  · intro evs iam' hrun hevs action attributesIn
    obtain ⟨hroles, hpolicies, huser⟩ := actingUser_run h hrun hevs
    exact nmIamCheckAccess_congr map num h.fingerprintsSet
      (distinctUsers_run h hrun).fingerprintsSet
      hroles hpolicies huser action attributesIn

def sharedHouseIam : NmIam where
  users := houseIam.users ++ [{ id := "2", roles := ["Guest"], fingerprint := some "f2" }]
  roles := houseIam.roles ++ [⟨"User", []⟩]
  policies := houseIam.policies

def othersRun : List IamUsersEvent :=
  [.removeRole "2" "Guest", .pair { fingerprint := some "f3", serverConnectToken := some "t" },
   .deleteUser "2"]

theorem check_access_isolated_house :
    DistinctUsers sharedHouseIam ∧
    ∃ iam', (iamUsers .inOrder sharedHouseIam).Run othersRun iam' ∧
      iam'.users.map NmIamUser.id = ["1", "3"] ∧
      nmIamCheckAccess assocMap digitsDouble sharedHouseIam (some "f1") "Open"
        (some [("Level", "2")]) = .ok true ∧
      nmIamCheckAccess assocMap digitsDouble iam' (some "f1") "Open" (some [("Level", "2")]) =
        nmIamCheckAccess assocMap digitsDouble sharedHouseIam (some "f1") "Open"
          (some [("Level", "2")]) := by
  have h : DistinctUsers sharedHouseIam :=
    ⟨by decide +kernel, by unfold FingerprintsSet; decide +kernel, by decide +kernel⟩
  have hacting : actingUser sharedHouseIam "f1" =
      some { id := "1", roles := ["Guest", "All"], fingerprint := some "f1" } := by decide +kernel
  obtain ⟨iam', hrun, hids⟩ : ∃ iam', (iamUsers .inOrder sharedHouseIam).Run othersRun iam' ∧
      iam'.users.map NmIamUser.id = ["1", "3"] := ⟨_, Machine.run_of_exec rfl, by decide +kernel⟩
  refine ⟨h, iam', hrun, hids, by decide +kernel, ?_⟩
  apply (check_access_isolated assocMap digitsDouble .inOrder h "f1").2 othersRun iam' hrun
  intro e he
  simp only [othersRun, List.mem_cons, List.not_mem_nil, or_false] at he
  rcases he with rfl | rfl | rfl <;> simp [Concerns, hacting, IamUsersEvent.userId]

end NabtoDevice
