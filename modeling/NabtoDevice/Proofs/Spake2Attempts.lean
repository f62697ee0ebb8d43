import NabtoDevice.Spec.Spake2Attempts
import NabtoDevice.Proofs.CalculateKey

/-! The attempts of a client on one connection. The counter of the connection bounds the requests
that get past the limit, and the key of the connection is one of an exchange that was answered
with 2.01, as long as no exchange that fails replaces it. -/

namespace NabtoDevice

/-- At most six requests get past the limit, every comparison is made by one of them, and it is made
with the key of an exchange of the same connection that was answered with 2.01. -/
structure AttemptedState.Limited (t : AttemptedState) : Prop where
  passed : t.log.passed ≤ 6
  compared_length : t.log.compared.length ≤ t.log.passed
  compared : ∀ key ∈ t.log.compared, key ∈ t.log.created

variable {s : Spake2State} {conn : PasswordAuthentication}
  {sha256 : List UInt8 → List UInt8} {i : ℕ}
  {req : PasswordRequest}

section

variable {A : Type} [AddCommGroup A] {P : Spake2Params A}

/-- A request does not make the counter wrap around, and an exchange that fails on a connection with
a key writes none. -/
def KeepsAttempts (P : Spake2Params A) (s : Spake2State) : PwdAuthEvent A → Prop
  | .pwdAuth1 _ | .pwdAuth2 _ =>
    ∀ conn, s.connection = some conn → conn.passwordAuthenticationRequests.toNat + 1 < 2 ^ 64
  | .passwordReady i env password _ _ =>
    ∀ req conn, s.passwordRequests[i]? = some req → req.hasConnection = true →
      s.connection = some conn → conn.hasSpake2Key = true → SomethingFails P env password →
        env.WritesNoKey
  | _ => True

structure AttemptsInv (t : AttemptedState) : Prop extends t.Limited where
  counted : ∀ conn, t.s.connection = some conn →
    t.log.passed ≤ conn.passwordAuthenticationRequests.toNat
  key : ∀ conn, t.s.connection = some conn → conn.hasSpake2Key = true →
    conn.spake2Key ∈ t.log.created
  /-- A request with a connection belongs to the one in the slot. -/
  requests : ∀ req ∈ t.s.passwordRequests, req.hasConnection = true →
    t.s.connection.isSome ∧ req.connectionRef = t.s.connectionRef

theorem attemptsInv_init : AttemptsInv (pwdAuthAttempts P).init where
  passed := Nat.zero_le _
  compared_length := Nat.zero_le _
  compared _ hkey := by cases hkey
  counted _ hc := by cases hc
  key _ hc := by cases hc
  requests _ hreq := by cases hreq

theorem passed_le_of_passesLimit {passed : ℕ} (hc : s.connection = some conn) (hsix : passed ≤ 6)
    (hcount : passed ≤ conn.passwordAuthenticationRequests.toNat)
    (hfits : conn.passwordAuthenticationRequests.toNat + 1 < 2 ^ 64) :
    passed + (passesLimit s).toNat ≤ 6 ∧
      passed + (passesLimit s).toNat ≤ conn.countRequest.passwordAuthenticationRequests.toNat := by
  have hnext : conn.countRequest.passwordAuthenticationRequests.toNat =
      conn.passwordAuthenticationRequests.toNat + 1 := by
    rw [PasswordAuthentication.countRequest, UInt64.toNat_add]
    exact Nat.mod_eq_of_lt hfits
  cases hpass : passesLimit s with
  | false => exact ⟨hsix, by rw [hnext]; exact Nat.le_succ_of_le hcount⟩
  | true =>
    have hle : conn.countRequest.passwordAuthenticationRequests.toNat ≤ 6 := by
      rw [passesLimit, hc, Bool.and_eq_true, Option.any_some, decide_eq_true_eq] at hpass
      exact hpass.2
    rw [Bool.toNat_true]
    omega

/-- A comparison is made after the check of the limit, with a key. -/
theorem pwdAuth2Response_compared {handler : Bool} {payload : Option (List UInt8)}
    (h : (pwdAuth2Response sha256 handler conn payload).code = ⟨2, 1⟩ ∨
      (pwdAuth2Response sha256 handler conn payload).code = ⟨4, 1⟩) :
    handler = true ∧ conn.passwordAuthenticationRequests ≤
      ncSpake2MaxPasswordAuthenticationRequests ∧
      conn.hasSpake2Key = true := by
  unfold pwdAuth2Response at h
  split at h
  · simp [coapErrorResponse] at h
  · next hh =>
    split at h
    · simp [coapErrorResponse] at h
    · next hmax =>
      refine ⟨by simpa using hh, UInt64.not_lt.mp hmax, ?_⟩
      cases payload with
      | none => simp [coapErrorResponse] at h
      | some payload =>
        cases hkey : conn.hasSpake2Key with
        | true => rfl
        | false =>
          simp only [hkey] at h
          split_ifs at h <;> simp_all [coapErrorResponse]

theorem comparedKey_eq_some {payload : Option (List UInt8)} {key : List UInt8}
    (hc : s.connection = some conn) (h : comparedKey sha256 s payload = some key) :
    passesLimit s = true ∧ conn.hasSpake2Key = true ∧ key = conn.spake2Key := by
  simp only [comparedKey, hc, Option.bind_some, Option.ite_none_right_eq_some,
    Option.some.injEq] at h
  obtain ⟨hhandler, hmax, hkey⟩ := pwdAuth2Response_compared h.1
  refine ⟨?_, hkey, h.2.symm⟩
  simp [passesLimit, hc, hhandler, hmax]

/-- The response goes to the connection in the slot, and the status is zero. -/
theorem createdKey_passwordReady (r : CalculatedKey) (hconn : req.hasConnection = true)
    (href : req.connectionRef = s.connectionRef) :
    createdKey (ncSpake2PasswordReady s i req r) r = if r.statusOk then r.key else none := by
  cases hstatus : r.statusOk <;>
    simp [createdKey, ncSpake2PasswordReady, hconn, hstatus, href, coapErrorResponse, coapCreated]

theorem key_of_statusOk {env : ExchangeEnv A} {password : Option (List UInt8)}
    {fpClient fpDevice : List UInt8}
    (h : (calculatedKey P env req password fpClient fpDevice).statusOk = true) :
    ∃ key, (calculatedKey P env req password fpClient fpDevice).key = some key := by
  have hnot : ¬ SomethingFails P env password := by
    rw [← statusOk_eq_false_iff P env req password fpClient fpDevice, h]
    exact Bool.noConfusion
  have hfinish : env.ok .mdFinish = true := by
    rw [← Bool.not_eq_false]
    exact fun hfail => hnot (Or.inl ⟨_, hfail⟩)
  exact ⟨_, if_pos hfinish⟩

namespace AttemptsInv

variable {t : AttemptedState} {conn : PasswordAuthentication}

theorem openConnection (h : AttemptsInv t) (hnone : t.s.connection = none) :
    AttemptsInv ⟨t.s.openConnection, {}⟩ where
  passed := Nat.zero_le _
  compared_length := Nat.zero_le _
  compared _ hkey := by cases hkey
  counted _ _ := Nat.zero_le _
  key conn hc hhas := by
    obtain rfl := Option.some.inj hc
    cases hhas
  requests req hreq hlive := by
    -- a request that still has a connection would have kept the slot occupied
    have hsome := (h.requests req hreq hlive).1
    rw [hnone] at hsome
    cases hsome

theorem destroyConnection (h : AttemptsInv t) : AttemptsInv ⟨t.s.destroyConnection, t.log⟩ where
  toLimited := ⟨h.passed, h.compared_length, h.compared⟩
  counted _ hc := by cases hc
  key _ hc := by cases hc
  requests req hreq hlive := by
    obtain ⟨req', -, rfl⟩ := List.mem_map.mp hreq
    cases hlive

theorem setHandler (h : AttemptsInv t) (handler : Bool) :
    AttemptsInv ⟨{ t.s with passwordRequestHandler := handler }, t.log⟩ :=
  ⟨⟨h.passed, h.compared_length, h.compared⟩, h.counted, h.key, h.requests⟩

/-- What both kinds of requests do: they are counted, and the connection keeps its key. -/
theorem request (h : AttemptsInv t) (hc : t.s.connection = some conn)
    (hfits : conn.passwordAuthenticationRequests.toNat + 1 < 2 ^ 64) {s' : Spake2State}
    {compared : List (List UInt8)} (hc' : s'.connection = some conn.countRequest)
    (href : s'.connectionRef = t.s.connectionRef)
    (hreqs : ∀ req ∈ s'.passwordRequests, req ∈ t.s.passwordRequests ∨
      req.connectionRef = t.s.connectionRef)
    (hlength : compared.length ≤ t.log.compared.length + (passesLimit t.s).toNat)
    (hcompared : ∀ key ∈ compared, key ∈ t.log.created) :
    AttemptsInv ⟨s', { t.log with
      passed := t.log.passed + (passesLimit t.s).toNat, compared := compared }⟩ := by
  obtain ⟨hsix, hcount⟩ := passed_le_of_passesLimit hc h.passed (h.counted conn hc) hfits
  refine ⟨⟨hsix, ?_, hcompared⟩, ?_, ?_, ?_⟩
  · exact hlength.trans (Nat.add_le_add_right h.compared_length _)
  · intro conn' heq
    obtain rfl := Option.some.inj (hc'.symm.trans heq)
    exact hcount
  · intro conn' heq hhas
    obtain rfl := Option.some.inj (hc'.symm.trans heq)
    exact h.key conn hc hhas
  · intro req hreq hlive
    rw [hc', href]
    refine ⟨rfl, ?_⟩
    rcases hreqs req hreq with hold | hnew
    · exact (h.requests req hold hlive).2
    · exact hnew

theorem pwdAuth1 (h : AttemptsInv t) (hc : t.s.connection = some conn)
    (hfits : conn.passwordAuthenticationRequests.toNat + 1 < 2 ^ 64) (request : PwdAuth1Request) :
    AttemptsInv ⟨ncSpake2HandleCoap1 t.s conn request,
      { t.log with passed := t.log.passed + (passesLimit t.s).toNat }⟩ := by
  have hlength : t.log.compared.length ≤ t.log.compared.length + (passesLimit t.s).toNat :=
    Nat.le_add_right _ _
  simp only [ncSpake2HandleCoap1]
  split
  · exact h.request hc hfits rfl rfl (fun req hreq => Or.inl hreq) hlength h.compared
  · refine h.request hc hfits rfl rfl (fun req hreq => ?_) hlength h.compared
    rcases List.mem_append.mp hreq with hold | hnew
    · exact Or.inl hold
    · rw [List.mem_singleton.mp hnew]
      exact Or.inr rfl

theorem pwdAuth2 (h : AttemptsInv t) (hc : t.s.connection = some conn)
    (hfits : conn.passwordAuthenticationRequests.toNat + 1 < 2 ^ 64)
    (payload : Option (List UInt8)) :
    AttemptsInv ⟨ncSpake2HandleCoap2 sha256 t.s conn payload, { t.log with
      passed := t.log.passed + (passesLimit t.s).toNat
      compared := t.log.compared ++ (comparedKey sha256 t.s payload).toList }⟩ := by
  refine h.request hc hfits rfl rfl (fun req hreq => Or.inl hreq) ?_ ?_
  · rw [List.length_append]
    apply Nat.add_le_add_left
    cases hkey : comparedKey sha256 t.s payload with
    | none => exact Nat.zero_le _
    | some key =>
      rw [(comparedKey_eq_some hc hkey).1]
      exact le_refl 1
  · intro key hmem
    rcases List.mem_append.mp hmem with hold | hnew
    · exact h.compared key hold
    · obtain ⟨-, hhas, rfl⟩ := comparedKey_eq_some hc (Option.mem_toList.mp hnew)
      exact h.key conn hc hhas

theorem passwordReady_gone (h : AttemptsInv t) (hgone : req.hasConnection = false)
    (r : CalculatedKey) :
    AttemptsInv ⟨ncSpake2PasswordReady t.s i req r, { t.log with
      created := t.log.created ++ (createdKey (ncSpake2PasswordReady t.s i req r) r).toList }⟩ := by
  have hs : createdKey (ncSpake2PasswordReady t.s i req r) r = none := by
    simp [createdKey, ncSpake2PasswordReady, hgone, coapErrorResponse]
  rw [hs, Option.toList_none, List.append_nil]
  simp only [ncSpake2PasswordReady, hgone]
  exact ⟨⟨h.passed, h.compared_length, h.compared⟩, h.counted, h.key,
    fun q hq => h.requests q (List.mem_of_mem_eraseIdx hq)⟩

theorem passwordReady (h : AttemptsInv t) (hi : t.s.passwordRequests[i]? = some req)
    (hlive : req.hasConnection = true) (hc : t.s.connection = some conn) {r : CalculatedKey}
    (hwritten : r.statusOk = true → ∃ key, r.key = some key)
    (hleft : conn.hasSpake2Key = true → r.statusOk = false →
      r.key.getD conn.spake2Key = conn.spake2Key) :
    AttemptsInv ⟨ncSpake2PasswordReady t.s i req r, { t.log with
      created := t.log.created ++ (createdKey (ncSpake2PasswordReady t.s i req r) r).toList }⟩ := by
  have href := (h.requests req (List.mem_of_getElem? hi) hlive).2
  have hconn : (ncSpake2PasswordReady t.s i req r).connection = some (conn.passwordReady r) := by
    rw [passwordReady_connection, hlive, hc]
    rfl
  rw [createdKey_passwordReady r hlive href]
  refine ⟨⟨h.passed, h.compared_length, ?_⟩, ?_, ?_, ?_⟩
  · intro key hkey
    exact List.mem_append_left _ (h.compared key hkey)
  · intro conn' heq
    obtain rfl := Option.some.inj (hconn.symm.trans heq)
    exact h.counted conn hc
  · intro conn' heq hhas
    obtain rfl := Option.some.inj (hconn.symm.trans heq)
    cases hstatus : r.statusOk with
    | true =>
      obtain ⟨key, hkey⟩ := hwritten hstatus
      simp [PasswordAuthentication.passwordReady, hkey]
    | false =>
      -- the key that is there from an exchange before has to stay
      have hold : conn.hasSpake2Key = true := by
        simpa [PasswordAuthentication.passwordReady, hstatus] using hhas
      rw [PasswordAuthentication.passwordReady, hleft hold hstatus]
      exact List.mem_append_left _ (h.key conn hc hold)
  · intro q hq hlive'
    rw [passwordReady_passwordRequests] at hq
    rw [hconn, passwordReady_connectionRef]
    exact ⟨rfl, (h.requests q (List.mem_of_mem_eraseIdx hq) hlive').2⟩

theorem step {e : PwdAuthEvent A} {t' : AttemptedState} (h : AttemptsInv t)
    (hkeep : KeepsAttempts P t.s e) (hs : attemptsStep P t e = some t') : AttemptsInv t' := by
  cases e with
  | openConnection =>
    obtain ⟨s', hstep, rfl⟩ := Option.map_eq_some_iff.mp hs
    obtain ⟨hnone, rfl⟩ := Machine.of_guard hstep
    exact h.openConnection (Option.isNone_iff_eq_none.mp hnone)
  | destroyConnection =>
    obtain ⟨s', hstep, rfl⟩ := Option.map_eq_some_iff.mp hs
    obtain ⟨-, rfl⟩ := Machine.of_guard hstep
    exact h.destroyConnection
  | setPasswordRequestCallback =>
    cases hs
    rw [setPasswordRequestCallback_eq]
    exact h.setHandler true
  | clearPasswordRequestCallback =>
    cases hs
    exact h.setHandler false
  | pwdAuth1 request =>
    obtain ⟨s', hstep, rfl⟩ := Option.map_eq_some_iff.mp hs
    obtain ⟨conn, hc, rfl⟩ := Option.map_eq_some_iff.mp hstep
    exact h.pwdAuth1 hc (hkeep conn hc) request
  | pwdAuth2 payload =>
    obtain ⟨s', hstep, rfl⟩ := Option.map_eq_some_iff.mp hs
    obtain ⟨conn, hc, rfl⟩ := Option.map_eq_some_iff.mp hstep
    exact h.pwdAuth2 hc (hkeep conn hc) payload
  | passwordReady i env password fpClient fpDevice =>
    obtain ⟨req, hi, hmap⟩ := Option.bind_eq_some_iff.mp hs
    obtain ⟨s', hstep, rfl⟩ := Option.map_eq_some_iff.mp hmap
    obtain ⟨req', hi', rfl⟩ := Option.map_eq_some_iff.mp hstep
    obtain rfl := Option.some.inj (hi.symm.trans hi')
    cases hlive : req.hasConnection with
    | false => exact h.passwordReady_gone hlive _
    | true =>
      obtain ⟨conn, hc⟩ := Option.isSome_iff_exists.mp
        (h.requests req (List.mem_of_getElem? hi) hlive).1
      refine h.passwordReady hi hlive hc key_of_statusOk ?_
      intro hhas hstatus
      have hfails := (statusOk_eq_false_iff P env req password fpClient fpDevice).mp hstatus
      rw [(key_eq_none_iff P env req password fpClient fpDevice).mpr
        (hkeep req conn hi hlive hc hhas hfails), Option.getD_none]

end AttemptsInv

/-- In every run of requests and passwords, in any order, that does not make a counter wrap around
and in which exchanges that fail leave the keys there are, at most six requests of a connection
get past the limit, and confirmations are only compared with keys of exchanges of the same
connection that were answered with 2.01. A new connection starts without a key, an authentication
or a count. -/
theorem attempts_limited {evs : List (PwdAuthEvent A)}
    (hkeep : ∀ u e, (pwdAuthAttempts P).Takes evs u e → KeepsAttempts P u.s e) :
    (∀ u, (pwdAuthAttempts P).Visits evs u → u.Limited) ∧
    ∀ u u', (pwdAuthAttempts P).Takes evs u .openConnection →
      (pwdAuthAttempts P).step u .openConnection = some u' →
        ∃ conn, u'.s.connection = some conn ∧ conn.hasSpake2Key = false ∧
          conn.passwordAuthenticated = false ∧ conn.passwordAuthenticationRequests = 0 := by
  constructor
  · intro u hu
    have hinv : AttemptsInv u :=
      hu.invariant_of_takes AttemptsInv (fun v e => KeepsAttempts P v.s e) attemptsInv_init
        (fun _ _ _ hinv hk hs => hinv.step hk hs) hkeep
    exact hinv.toLimited
  · intro u u' _ hs
    obtain ⟨s', hstep, rfl⟩ := Option.map_eq_some_iff.mp hs
    obtain ⟨-, rfl⟩ := Machine.of_guard hstep
    exact ⟨_, rfl, rfl, rfl, rfl⟩

end

def exchangeRequest (t : List UInt8) : PwdAuthEvent (ZMod 11) :=
  .pwdAuth1 { payload := some [0xa2], username := .textString [0x61], t := .byteString t }

def exchangedEvents : List (PwdAuthEvent (ZMod 11)) :=
  [.setPasswordRequestCallback, .openConnection, exchangeRequest [4, 5],
   .passwordReady 0 succeedingEnv (some [97]) [1] [2]]

def limitedEvents : List (PwdAuthEvent (ZMod 11)) :=
  exchangedEvents ++ [.pwdAuth2 (some (List.replicate 32 0)), .destroyConnection, .openConnection]

theorem attempts_limited_wrong_key :
    (∃ t, (pwdAuthAttempts smallParams).Run (limitedEvents.take 5) t ∧
      t.log.passed = 2 ∧ t.log.compared.length = 1) ∧
    ∀ u, (pwdAuthAttempts smallParams).Visits limitedEvents u → u.Limited := by
  have hrun : ∃ t, (pwdAuthAttempts smallParams).Run (limitedEvents.take 5) t ∧
      decide (t.log.passed = 2 ∧ t.log.compared.length = 1) = true :=
    Machine.exists_run_of_exec _ (by decide +kernel)
  refine ⟨by simpa using hrun, (attempts_limited ?_).1⟩
  intro u e ht
  have hall : (u.s.connection.all fun conn =>
      decide (conn.passwordAuthenticationRequests.toNat + 1 < 2 ^ 64)) = true :=
    Machine.visits_of_inits (p := fun u : AttemptedState => u.s.connection.all fun conn =>
      decide (conn.passwordAuthenticationRequests.toNat + 1 < 2 ^ 64)) (by decide +kernel) ht.visits
  have hfits : ∀ conn, u.s.connection = some conn →
      conn.passwordAuthenticationRequests.toNat + 1 < 2 ^ 64 := by
    intro conn hc
    simpa [hc] using hall
  obtain ⟨pre, hpre, -⟩ := ht
  have hmem : e ∈ limitedEvents := hpre.subset (by simp)
  cases e with
  | pwdAuth1 | pwdAuth2 => exact hfits
  | passwordReady i env password fpClient fpDevice =>
    have hevent : i = 0 ∧ env = succeedingEnv ∧ password = some [97] ∧ fpClient = [1] ∧
        fpDevice = [2] := by
      simpa [limitedEvents, exchangedEvents, exchangeRequest] using hmem
    -- nothing fails in that environment
    intro _ _ _ _ _ _ hfails
    rw [hevent.2.1] at hfails
    rcases hfails with ⟨call, hcall⟩ | hsize
    · cases hcall
    · simp [smallParams] at hsize
  | _ => trivial

def writtenKey : List UInt8 :=
  ((calculatedKey smallParams pointAtInfinityEnv ⟨[0x61], [0], 1, true⟩ (some [97]) [1]
    [2]).key).getD []

/-- The second exchange is answered with 5.00, and yet its key is the one that gets confirmed. -/
theorem attempts_compare_failed_key :
    ∃ t, (pwdAuthAttempts smallParams).Run
        (exchangedEvents ++
          [exchangeRequest [0], .passwordReady 0 pointAtInfinityEnv (some [97]) [1] [2],
           .pwdAuth2 (some (Sha256.hash (Sha256.hash writtenKey)))]) t ∧
      t.s.answers.map (fun a => (a.resource, a.response.code)) =
        [(.two, ⟨2, 1⟩), (.one, ⟨5, 0⟩), (.one, ⟨2, 1⟩)] ∧
      t.log.compared = [writtenKey] ∧ writtenKey ∉ t.log.created ∧ ¬ t.Limited := by
  have hrun : ∃ t, (pwdAuthAttempts smallParams).Run
        (exchangedEvents ++
          [exchangeRequest [0], .passwordReady 0 pointAtInfinityEnv (some [97]) [1] [2],
           .pwdAuth2 (some (Sha256.hash (Sha256.hash writtenKey)))]) t ∧
      decide (t.s.answers.map (fun a => (a.resource, a.response.code)) =
        [(.two, ⟨2, 1⟩), (.one, ⟨5, 0⟩), (.one, ⟨2, 1⟩)] ∧
      t.log.compared = [writtenKey] ∧ writtenKey ∉ t.log.created) = true :=
    Machine.exists_run_of_exec _ (by decide +kernel)
  obtain ⟨t, ht, hlog⟩ := hrun
  obtain ⟨hanswers, hcompared, hnot⟩ := of_decide_eq_true hlog
  refine ⟨t, ht, hanswers, hcompared, hnot, fun hlimited => hnot ?_⟩
  exact hlimited.compared writtenKey (by rw [hcompared]; exact List.mem_singleton_self _)

end NabtoDevice
