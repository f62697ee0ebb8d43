import NabtoDevice.Sanity.IamUsers

/-! Users stay distinct over every sequence of pairings, deletions and role changes, and pairing
adds at most one user, the first one as an administrator. -/

namespace NabtoDevice

def HasFreeId (iam : NmIam) : Prop :=
  ∃ m, 0 < m ∧ m ≤ intMax ∧ toString m ∉ iam.users.map NmIamUser.id

structure PairsOnce (set : UnorderedSet String) (iam : NmIam) (request : PairRequest) : Prop where
  /-- A client that is paired gets its user. -/
  known : ∀ f user, request.fingerprint = some f → user ∈ iam.users → user.fingerprint = some f →
    nmIamPairNewClient set iam request = .ok (some user, iam)
  failed : ∀ iam', nmIamPairNewClient set iam request = .ok (none, iam') → iam' = iam
  added : ∀ user iam', nmIamPairNewClient set iam request = .ok (some user, iam') →
    (∀ u ∈ iam.users, u.fingerprint ≠ request.fingerprint) →
      iam' = { iam with users := iam.users ++ [user] } ∧ user.fingerprint = request.fingerprint ∧
        user.roles = [if iam.users = [] then "Admin" else "User"]

variable {iam : NmIam}

theorem actingUser_of_mem (h : DistinctUsers iam) {f : String} {user : NmIamUser}
    (hmem : user ∈ iam.users) (hf : user.fingerprint = some f) : actingUser iam f = some user := by
  cases hu : actingUser iam f with
  | none =>
    have hnot := List.find?_eq_none.mp hu user hmem
    simp [hf] at hnot
  | some other =>
    have hother : other.fingerprint = some f := by
      have hp := List.find?_some hu
      simpa using hp
    have hinj := List.inj_on_of_nodup_map h.fingerprints (List.mem_of_find?_eq_some hu) hmem
    rw [hinj (hother.trans hf.symm)]

theorem actingUser_eq_none {f : String} (h : actingUser iam f = none) :
    some f ∉ iam.users.map NmIamUser.fingerprint := by
  intro hmem
  obtain ⟨user, hu, hf⟩ := List.mem_map.mp hmem
  have hnot := List.find?_eq_none.mp h user hu
  simp [hf] at hnot

theorem pairsOnce (set : UnorderedSet String) (h : DistinctUsers iam) (request : PairRequest) :
    PairsOnce set iam request := by
  have hmove := pairMove set h.fingerprintsSet request
  constructor
  · intro f user hf hmem hfp
    have hacting := actingUser_of_mem h hmem hfp
    generalize nmIamPairNewClient set iam request = result at hmove ⊢
    cases hmove with
    | known hf' hu =>
      obtain rfl := Option.some.inj (hf.symm.trans hf')
      rw [hacting] at hu
      rw [Option.some.inj hu]
    | failed hu => rw [hu f hf] at hacting; cases hacting
    | overflow hu hid => rw [hu f hf] at hacting; cases hacting
    | added hf' hu hid =>
      obtain rfl := Option.some.inj (hf.symm.trans hf')
      rw [hu] at hacting
      cases hacting
  · intro iam' heq
    rw [heq] at hmove
    cases hmove with
    | failed hu => rfl
  · intro user iam' heq hnew
    rw [heq] at hmove
    cases hmove with
    | known hf hu =>
      have hp := List.find?_some hu
      refine absurd ?_ (hnew user (List.mem_of_find?_eq_some hu))
      rw [hf]
      simpa using hp
    | added hf hu hid =>
      refine ⟨rfl, hf.symm, ?_⟩
      simp only [newUser, List.isEmpty_iff]

theorem nodup_concat {α : Type} {l : List α} (h : l.Nodup) {a : α} (ha : a ∉ l) :
    (l ++ [a]).Nodup :=
  (List.perm_append_singleton a l).nodup_iff.mpr (List.nodup_cons.mpr ⟨ha, h⟩)

theorem distinctUsers_move {iam' : NmIam} {e : IamUsersEvent} (h : DistinctUsers iam)
    (hmove : IamMove iam e iam') : DistinctUsers iam' := by
  cases hmove with
  | same => exact h
  | @erased _ userId he =>
    have hsub := List.eraseP_sublist (l := iam.users) (p := fun user => decide (user.id = userId))
    exact ⟨h.ids.sublist (hsub.map _), fun user hu => h.fingerprintsSet user (hsub.subset hu),
      h.fingerprints.sublist (hsub.map _)⟩
  | @updated _ userId _ he hid hfp =>
    have hfps := updateUser_map hfp userId iam.users
    refine ⟨?_, ?_, ?_⟩
    · rw [updateUser_map hid]
      exact h.ids
    · intro user hu
      have hmem := List.mem_map_of_mem (f := NmIamUser.fingerprint) hu
      rw [hfps] at hmem
      obtain ⟨old, hold, heq⟩ := List.mem_map.mp hmem
      rw [← heq]
      exact h.fingerprintsSet old hold
    · rw [hfps]
      exact h.fingerprints
  | @added request f sct id hf hu hid =>
    obtain ⟨n, hleast, rfl⟩ := nmIamNextUserId_eq_some hid
    refine ⟨?_, ?_, ?_⟩
    · simp only [nmIamAddUser, List.map_append, List.map_cons, List.map_nil]
      exact nodup_concat h.ids hleast.1.2
    · intro user hmem
      rcases List.mem_append.mp hmem with hmem | hmem
      · exact h.fingerprintsSet user hmem
      · rw [List.mem_singleton.mp hmem]
        rfl
    · simp only [nmIamAddUser, List.map_append, List.map_cons, List.map_nil]
      exact nodup_concat h.fingerprints (actingUser_eq_none hu)

theorem distinctUsers_run {set : UnorderedSet String} {iam₀ : NmIam} {evs : List IamUsersEvent}
    (h : DistinctUsers iam₀) (hrun : (iamUsers set iam₀).Run evs iam) : DistinctUsers iam :=
  hrun.invariant DistinctUsers h fun _ _ _ hd hs =>
    distinctUsers_move hd (iamMove_of_step hd.fingerprintsSet hs)

theorem nmIamNextUserId_eq_none_iff : nmIamNextUserId iam = none ↔ ¬ HasFreeId iam := by
  rw [nmIamNextUserId, Option.map_eq_none_iff, FirstFree.search_eq_none_iff, Nat.zero_add]
  constructor
  · rintro hall ⟨m, hpos, hmax, hfree⟩
    exact hfree (nmIamFindUserById_isSome.mp (hall m hpos hmax))
  · intro hfree m hpos hmax
    by_contra hnot
    exact hfree ⟨m, hpos, hmax, fun hmem => hnot (nmIamFindUserById_isSome.mpr hmem)⟩

/-- The search for an id ends with the least number that is free, as long as it is an `int`. -/
theorem exists_nmIamNextUserId (h : HasFreeId iam) :
    ∃ n, IsLeastFreeId iam n ∧ nmIamNextUserId iam = some (toString n) := by
  cases hnext : nmIamNextUserId iam with
  | none => exact absurd h (nmIamNextUserId_eq_none_iff.mp hnext)
  | some id =>
    obtain ⟨n, hleast, rfl⟩ := nmIamNextUserId_eq_some hnext
    exact ⟨n, hleast, rfl⟩

theorem hasFreeId_of_length (h : iam.users.length < intMax) : HasFreeId iam := by
  obtain ⟨m, hpos, hle, hfree⟩ :=
    FirstFree.exists_not_mem toString_injective (iam.users.map NmIamUser.id)
  rw [List.length_map] at hle
  exact ⟨m, hpos, by omega, hfree⟩

/-- Pairing comes to an end if there is an id for the new user. -/
theorem exists_nmIamPairNewClient (set : UnorderedSet String) (h : FingerprintsSet iam)
    (hfree : HasFreeId iam)
    (request : PairRequest) : ∃ result, nmIamPairNewClient set iam request = .ok result := by
  have hmove := pairMove set h request
  generalize nmIamPairNewClient set iam request = result at hmove ⊢
  cases hmove with
  | overflow hu hid =>
    obtain ⟨n, -, hsome⟩ := exists_nmIamNextUserId hfree
    rw [hid] at hsome
    cases hsome
  | _ => exact ⟨_, rfl⟩

/-- In every state reached from one with distinct users, the users are distinct, and pairing
returns the user of a known client, fails without a change, or adds one user. As long as an `int`
is left as an id, which fewer than 2147483647 users ensure, the id search ends with the least
positive number that is not an id, and pairing ends. -/
theorem users_distinct_and_paired_once {set : UnorderedSet String} {iam₀ iam : NmIam}
    {evs : List IamUsersEvent} (h : DistinctUsers iam₀) (hrun : (iamUsers set iam₀).Run evs iam) :
    DistinctUsers iam ∧ (∀ request, PairsOnce set iam request) ∧
      (HasFreeId iam →
        (∃ n, IsLeastFreeId iam n ∧ nmIamNextUserId iam = some (toString n)) ∧
        ∀ request, ∃ result, nmIamPairNewClient set iam request = .ok result) ∧
      (iam.users.length < intMax → HasFreeId iam) := by
  have hd := distinctUsers_run h hrun
  refine ⟨hd, pairsOnce set hd, ?_, hasFreeId_of_length⟩
  intro hfree
  exact ⟨exists_nmIamNextUserId hfree, exists_nmIamPairNewClient set hd.fingerprintsSet hfree⟩

def unpairedIam : NmIam := ⟨[], [⟨"Admin", []⟩, ⟨"User", []⟩], []⟩

def pairingRun : List IamUsersEvent :=
  [.pair { fingerprint := some "f1", serverConnectToken := some "t1" },
   .pair { fingerprint := some "f2", serverConnectToken := some "t2" },
   .deleteUser "1",
   .pair { fingerprint := some "f3", serverConnectToken := some "t3" }]

theorem users_distinct_after_pairing :
    ∃ iam, (iamUsers .inOrder unpairedIam).Run pairingRun iam ∧
      iam.users.map (fun u => (u.id, u.roles)) = [("2", ["User"]), ("1", ["User"])] ∧
      DistinctUsers iam ∧ HasFreeId iam ∧
      ∃ n, IsLeastFreeId iam n ∧ nmIamNextUserId iam = some (toString n) := by
  have h : DistinctUsers unpairedIam :=
    ⟨List.nodup_nil, fun u hu => absurd hu List.not_mem_nil, List.nodup_nil⟩
  obtain ⟨iam, hrun, husers⟩ : ∃ iam, (iamUsers .inOrder unpairedIam).Run pairingRun iam ∧
      iam.users.map (fun u => (u.id, u.roles)) = [("2", ["User"]), ("1", ["User"])] :=
    ⟨_, Machine.run_of_exec rfl, by decide +kernel⟩
  obtain ⟨hd, -, hnext, hfree⟩ := users_distinct_and_paired_once h hrun
  have hlength : iam.users.length = 2 := by
    rw [← List.length_map, husers]
    rfl
  have hroom : HasFreeId iam := hfree (by rw [hlength]; decide)
  exact ⟨iam, hrun, husers, hd, hroom, (hnext hroom).1⟩

def crowd (n : ℕ) : NmIam where
  users := (List.range n).map fun i =>
    { id := toString (i + 1), roles := [], fingerprint := some (toString (i + 1)) }
  roles := []
  policies := []

theorem mem_crowd_ids {n k : ℕ} :
    toString k ∈ (crowd n).users.map NmIamUser.id ↔ 0 < k ∧ k ≤ n := by
  simp only [crowd, List.map_map, List.mem_map, List.mem_range, Function.comp_apply]
  constructor
  · rintro ⟨i, hi, heq⟩
    have := toString_injective heq
    omega
  · rintro ⟨hpos, hle⟩
    exact ⟨k - 1, by omega, by rw [Nat.sub_add_cancel hpos]⟩

theorem crowd_distinct (n : ℕ) : DistinctUsers (crowd n) := by
  have hinj : Function.Injective fun i : ℕ => toString (i + 1) :=
    toString_injective.comp Nat.succ_injective
  refine ⟨?_, ?_, ?_⟩
  · simp only [crowd, List.map_map]
    exact List.Nodup.map hinj List.nodup_range
  · intro user hu
    obtain ⟨i, -, rfl⟩ := List.mem_map.mp hu
    rfl
  · simp only [crowd, List.map_map]
    exact List.Nodup.map ((Option.some_injective _).comp hinj) List.nodup_range

/-- When all ids up to the largest `int` are taken, the search does not get to the next one. -/
theorem crowd_has_no_next_id :
    DistinctUsers (crowd intMax) ∧ IsLeastFreeId (crowd intMax) (intMax + 1) ∧
      nmIamNextUserId (crowd intMax) = none := by
  refine ⟨crowd_distinct intMax, ⟨⟨by omega, ?_⟩, ?_⟩, ?_⟩
  · rw [mem_crowd_ids]
    omega
  · rintro k ⟨hpos, hfree⟩
    rw [mem_crowd_ids] at hfree
    omega
  · unfold nmIamNextUserId
    rw [Option.map_eq_none_iff, FirstFree.search_eq_none_iff]
    intro k hpos hle
    rw [nmIamFindUserById_isSome, mem_crowd_ids]
    omega

end NabtoDevice
