import NabtoDevice.Proofs.Iam
import NabtoDevice.Spec.IamUsers

/-! What the functions on users do to the list of users. -/

namespace NabtoDevice

structure DistinctUsers (iam : NmIam) : Prop where
  ids : (iam.users.map NmIamUser.id).Nodup
  fingerprintsSet : FingerprintsSet iam
  fingerprints : (iam.users.map NmIamUser.fingerprint).Nodup

theorem toString_injective : Function.Injective (toString : ℕ → String) := by
  intro a b h
  have hrepr : String.ofList (Nat.toDigits 10 a) = String.ofList (Nat.toDigits 10 b) := by
    exact h
  have hdigits : Nat.toDigits 10 a = Nat.toDigits 10 b := by
    rw [← String.toList_ofList (l := Nat.toDigits 10 a), hrepr, String.toList_ofList]
  rw [← Nat.ofDigitChars_toDigits (b := 10) (n := a) (by decide) (by decide), hdigits,
    Nat.ofDigitChars_toDigits (by decide) (by decide)]

theorem nmIamFindUserById_isSome {iam : NmIam} {id : String} :
    (nmIamFindUserById iam id).isSome = true ↔ id ∈ iam.users.map NmIamUser.id := by
  simp [nmIamFindUserById]

/-- The least positive number whose decimal form is not the id of a user. -/
def IsLeastFreeId (iam : NmIam) (n : ℕ) : Prop :=
  IsLeast {k | 0 < k ∧ toString k ∉ iam.users.map NmIamUser.id} n

theorem taken_eq_false {iam : NmIam} {k : ℕ} :
    (nmIamFindUserById iam (toString k)).isSome = false ↔
      toString k ∉ iam.users.map NmIamUser.id := by
  rw [← nmIamFindUserById_isSome, Bool.not_eq_true]

theorem nmIamNextUserId_eq_some {iam : NmIam} {id : String} (h : nmIamNextUserId iam = some id) :
    ∃ n, IsLeastFreeId iam n ∧ id = toString n := by
  obtain ⟨n, hn, rfl⟩ := Option.map_eq_some_iff.mp h
  have hleast := FirstFree.search_eq_some hn
  simp only [taken_eq_false] at hleast
  exact ⟨n, hleast, rfl⟩

def newUser (iam : NmIam) (id fingerprint sct : String) : NmIamUser where
  id := id
  roles := [if iam.users.isEmpty then "Admin" else "User"]
  fingerprint := some fingerprint
  serverConnectToken := some sct

inductive PairMove (iam : NmIam) (request : PairRequest) :
    Except PairFault (Option NmIamUser × NmIam) → Prop
  | known {f : String} {user : NmIamUser} (hf : request.fingerprint = some f)
      (hu : actingUser iam f = some user) : PairMove iam request (.ok (some user, iam))
  | failed (hu : ∀ f, request.fingerprint = some f → actingUser iam f = none) :
      PairMove iam request (.ok (none, iam))
  | overflow (hu : ∀ f, request.fingerprint = some f → actingUser iam f = none)
      (hid : nmIamNextUserId iam = none) : PairMove iam request (.error .userIdOverflow)
  | added {f sct id : String} (hf : request.fingerprint = some f) (hu : actingUser iam f = none)
      (hid : nmIamNextUserId iam = some id) :
      PairMove iam request
        (.ok (some (newUser iam id f sct), nmIamAddUser iam (newUser iam id f sct)))

theorem pairMove (set : UnorderedSet String) {iam : NmIam} (h : FingerprintsSet iam)
    (request : PairRequest) : PairMove iam request (nmIamPairNewClient set iam request) := by
  cases hf : request.fingerprint with
  | none =>
    have hnone : nmIamPairNewClient set iam request = .ok (none, iam) := by
      simp [nmIamPairNewClient, nmIamFindUserByCoapRequest, hf]
    rw [hnone]
    exact .failed fun f hf' => by rw [hf] at hf'; cases hf'
  | some f =>
    have hfind : nmIamFindUserByFingerprint iam f = .ok (actingUser iam f) :=
      findUserByFingerprint_eq (h.usersComparable f)
    unfold nmIamPairNewClient
    simp only [nmIamFindUserByCoapRequest, hf, hfind]
    cases hu : actingUser iam f with
    | some user => exact .known hf hu
    | none =>
      have hnone : ∀ f', request.fingerprint = some f' → actingUser iam f' = none := by
        intro f' hf'
        obtain rfl := Option.some.inj (hf.symm.trans hf')
        exact hu
      cases request.closed with
      | true => exact .failed hnone
      | false =>
        simp only [Bool.false_eq_true, if_false]
        by_cases hrole : (nmIamFindRole iam (if iam.users.isEmpty then "Admin" else "User")).isNone
        · rw [if_pos hrole]
          exact .failed hnone
        rw [if_neg hrole]
        cases request.serverConnectToken with
        | none => exact .failed hnone
        | some sct =>
          cases hid : nmIamNextUserId iam with
          | none => exact .overflow hnone hid
          | some id =>
            simp only [set.insert_nil]
            exact .added hf hu hid

theorem updateUser_map {α : Type} {g : NmIamUser → α} {f : NmIamUser → NmIamUser}
    (hfg : ∀ u, g (f u) = g u) (userId : String) (users : List NmIamUser) :
    (updateUser userId f users).map g = users.map g := by
  induction users with
  | nil => rfl
  | cons user rest ih =>
    unfold updateUser
    split_ifs
    · simp only [List.map_cons, hfg]
    · simp only [List.map_cons, ih]

def IamUsersEvent.userId : IamUsersEvent → Option String
  | .pair _ => none
  | .deleteUser userId | .addRole userId _ | .removeRole userId _ => some userId

/-- What a step can do to the users. It changes nothing else. -/
inductive IamMove (iam : NmIam) : IamUsersEvent → NmIam → Prop
  | same (e : IamUsersEvent) : IamMove iam e iam
  | erased {e : IamUsersEvent} {userId : String} (he : e.userId = some userId) :
      IamMove iam e { iam with users := iam.users.eraseP fun user => user.id = userId }
  | updated {e : IamUsersEvent} {userId : String} {f : NmIamUser → NmIamUser}
      (he : e.userId = some userId) (hid : ∀ u, (f u).id = u.id)
      (hfp : ∀ u, (f u).fingerprint = u.fingerprint) :
      IamMove iam e { iam with users := updateUser userId f iam.users }
  | added {request : PairRequest} {f sct id : String} (hf : request.fingerprint = some f)
      (hu : actingUser iam f = none) (hid : nmIamNextUserId iam = some id) :
      IamMove iam (.pair request) (nmIamAddUser iam (newUser iam id f sct))

theorem iamMove_of_step {set : UnorderedSet String} {iam iam' : NmIam} {e : IamUsersEvent}
    (h : FingerprintsSet iam) (hs : iamUsersStep set iam e = some iam') : IamMove iam e iam' := by
  cases e with
  | pair request =>
    have hmove := pairMove set h request
    simp only [iamUsersStep] at hs
    generalize nmIamPairNewClient set iam request = result at hmove hs
    cases hmove with
    | known hf hu =>
      cases hs
      exact .same _
    | failed hu =>
      cases hs
      exact .same _
    | overflow hu hid => cases hs
    | added hf hu hid =>
      cases hs
      exact .added hf hu hid
  | deleteUser userId =>
    cases hs
    exact .erased rfl
  | addRole userId roleId =>
    cases hs
    unfold nmIamAddRoleToUser
    split_ifs
    · exact .same _
    · exact .updated rfl (fun _ => rfl) fun _ => rfl
  | removeRole userId roleId =>
    cases hs
    exact .updated rfl (fun _ => rfl) fun _ => rfl

end NabtoDevice
