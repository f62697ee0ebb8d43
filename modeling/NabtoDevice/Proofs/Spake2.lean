import NabtoDevice.Spec.Spake2
import NabtoDevice.Lib.Sha256

/-! The flag `passwordAuthenticated` over runs of the password authentication. No step
ever sets it, so it agrees with the answers of `p2p/pwd-auth/2` exactly as long as
none of them confirms a key. -/

namespace NabtoDevice

variable {sha256 : List UInt8 → List UInt8}

def Spake2State.Confirmed (s : Spake2State) : Prop :=
  ∃ a ∈ s.answers, a.connectionRef = s.connectionRef ∧ a.resource = .two ∧ a.response.code = ⟨2, 1⟩

def AuthenticatedIffConfirmed (s : Spake2State) : Prop :=
  ∀ conn, s.connection = some conn →
    (ncClientConnectionIsPasswordAuthenticated conn = true ↔ s.Confirmed)

/-- The event is a request of `p2p/pwd-auth/2` within the limit of requests that carries the
confirmation of the connection's key. -/
def confirmsKey (sha256 : List UInt8 → List UInt8) (s : Spake2State) : Spake2Event → Bool
  | .pwdAuth2 (some payload) =>
    s.connection.any fun conn =>
      s.passwordRequestHandler && conn.hasSpake2Key && payload.length == 32 &&
        decide (conn.passwordAuthenticationRequests + 1 ≤
          ncSpake2MaxPasswordAuthenticationRequests) &&
        payload == sha256 (sha256 conn.spake2Key)
  | _ => false

theorem pwdAuth2Response_created_iff (handler : Bool) (conn : PasswordAuthentication)
    (payload : Option (List UInt8)) :
    (pwdAuth2Response sha256 handler conn payload).code = ⟨2, 1⟩ ↔
      handler = true ∧
        conn.passwordAuthenticationRequests ≤ ncSpake2MaxPasswordAuthenticationRequests ∧
        ∃ p, payload = some p ∧ p.length = 32 ∧ conn.hasSpake2Key = true ∧
          p = sha256 (sha256 conn.spake2Key) := by
  unfold pwdAuth2Response
  split
  · simp_all [coapErrorResponse]
  split
  · next hmax =>
    have : ¬ conn.passwordAuthenticationRequests ≤ ncSpake2MaxPasswordAuthenticationRequests :=
      UInt64.not_le.mpr hmax
    simp [coapErrorResponse, this]
  · next hh hmax =>
    have hle : conn.passwordAuthenticationRequests ≤ ncSpake2MaxPasswordAuthenticationRequests :=
      UInt64.not_lt.mp hmax
    have hh : handler = true := by simpa using hh
    cases payload with
    | none => simp [coapErrorResponse]
    | some p =>
      simp only [Option.some.injEq, exists_eq_left']
      split_ifs <;> simp_all [coapErrorResponse, coapCreated]

theorem answer_confirmed_iff (s : Spake2State) (resource : PwdAuthResource)
    (response : CoapResponse) :
    (s.answer resource response).Confirmed ↔
      (resource = .two ∧ response.code = ⟨2, 1⟩) ∨ s.Confirmed := by
  simp [Spake2State.Confirmed, Spake2State.answer]

/-- Responses are only sent for connections the slot had, and no connection in it is
marked as authenticated. -/
structure Spake2State.Unauthenticated (s : Spake2State) : Prop where
  flag : ∀ conn, s.connection = some conn → conn.passwordAuthenticated = false
  refs : ∀ a ∈ s.answers, a.connectionRef ≤ s.connectionRef
  requests : ∀ req ∈ s.passwordRequests, req.connectionRef ≤ s.connectionRef

theorem init_unauthenticated : ncSpake2Init.Unauthenticated where
  flag := by simp [ncSpake2Init]
  refs := by simp [ncSpake2Init]
  requests := by simp [ncSpake2Init]

variable {s : Spake2State}

theorem Spake2State.Unauthenticated.answer (h : s.Unauthenticated) (resource : PwdAuthResource)
    (response : CoapResponse) :
    (s.answer resource response).Unauthenticated where
  flag := h.flag
  refs := by
    intro a ha
    rcases List.mem_cons.mp ha with rfl | ha
    · exact le_refl s.connectionRef
    · exact h.refs a ha
  requests := h.requests

variable {conn : PasswordAuthentication}

theorem Spake2State.Unauthenticated.setConnection (h : s.Unauthenticated)
    (hc : conn.passwordAuthenticated = false) :
    ({ s with connection := some conn } : Spake2State).Unauthenticated where
  flag := by
    intro conn' heq
    obtain rfl := Option.some.inj heq
    exact hc
  refs := h.refs
  requests := h.requests

/-- On a connection that is not marked as authenticated the flag is right exactly if no
key was confirmed. -/
theorem Spake2State.Unauthenticated.good_iff (h : s.Unauthenticated)
    (hc : s.connection = some conn) : AuthenticatedIffConfirmed s ↔ ¬ s.Confirmed := by
  have hflag : ncClientConnectionIsPasswordAuthenticated conn = false := h.flag conn hc
  constructor
  · intro hgood hconf
    rw [(hgood conn hc).mpr hconf] at hflag
    cases hflag
  · intro hnot conn' hc'
    obtain rfl := Option.some.inj (hc.symm.trans hc')
    simp [hflag, hnot]

theorem openConnection_not_confirmed (h : s.Unauthenticated) : ¬ s.openConnection.Confirmed := by
  rintro ⟨a, ha, href, -⟩
  have hle := h.refs a ha
  have href : a.connectionRef = s.connectionRef + 1 := href
  omega

theorem openConnection_unauthenticated (h : s.Unauthenticated) :
    s.openConnection.Unauthenticated where
  flag := by
    intro conn heq
    cases heq
    rfl
  refs a ha := Nat.le_succ_of_le (h.refs a ha)
  requests req hreq := Nat.le_succ_of_le (h.requests req hreq)

theorem destroyConnection_unauthenticated (h : s.Unauthenticated) :
    s.destroyConnection.Unauthenticated where
  flag conn heq := by cases heq
  refs := h.refs
  requests req hreq := by
    obtain ⟨req', hreq', rfl⟩ := List.mem_map.mp hreq
    exact h.requests req' hreq'

theorem handleCoap1_unauthenticated (h : s.Unauthenticated) (hc : s.connection = some conn)
    (request : PwdAuth1Request) : (ncSpake2HandleCoap1 s conn request).Unauthenticated := by
  have hset := h.setConnection
    (show conn.countRequest.passwordAuthenticated = false from h.flag conn hc)
  simp only [ncSpake2HandleCoap1]
  split
  · exact hset.answer _ _
  · refine ⟨hset.flag, hset.refs, ?_⟩
    intro req hreq
    rcases List.mem_append.mp hreq with hreq | hreq
    · exact h.requests req hreq
    · rw [List.mem_singleton.mp hreq]

theorem handleCoap1_confirmed_iff (s : Spake2State) (conn : PasswordAuthentication)
    (request : PwdAuth1Request) :
    (ncSpake2HandleCoap1 s conn request).Confirmed ↔ s.Confirmed := by
  simp only [ncSpake2HandleCoap1]
  split
  · rw [answer_confirmed_iff]
    simp [Spake2State.Confirmed]
  · rfl

theorem handleCoap2_unauthenticated (h : s.Unauthenticated) (hc : s.connection = some conn)
    (payload : Option (List UInt8)) : (ncSpake2HandleCoap2 sha256 s conn payload).Unauthenticated :=
  (h.setConnection
    (show conn.countRequest.passwordAuthenticated = false from h.flag conn hc)).answer _ _

theorem handleCoap2_confirmed_iff (hc : s.connection = some conn) (payload : Option (List UInt8)) :
    (ncSpake2HandleCoap2 sha256 s conn payload).Confirmed ↔
      confirmsKey sha256 s (.pwdAuth2 payload) = true ∨ s.Confirmed := by
  unfold ncSpake2HandleCoap2
  rw [answer_confirmed_iff, pwdAuth2Response_created_iff]
  apply or_congr _ Iff.rfl
  cases payload with
  | none => simp [confirmsKey]
  | some p =>
    simp only [confirmsKey, hc, Option.any_some, Bool.and_eq_true, beq_iff_eq, decide_eq_true_eq,
      PasswordAuthentication.countRequest, Option.some.injEq, exists_eq_left', true_and]
    tauto

theorem passwordReady_unauthenticated {i : ℕ} {req : PasswordRequest} (h : s.Unauthenticated)
    (hi : s.passwordRequests[i]? = some req) (r : CalculatedKey) :
    (ncSpake2PasswordReady s i req r).Unauthenticated := by
  have hreqs : ∀ q ∈ s.passwordRequests.eraseIdx i, q.connectionRef ≤ s.connectionRef :=
    fun q hq => h.requests q (List.mem_of_mem_eraseIdx hq)
  have hrefs (response : CoapResponse) :
      ∀ a ∈ (⟨req.connectionRef, .one, response⟩ : PwdAuthAnswer) :: s.answers,
        a.connectionRef ≤ s.connectionRef := by
    intro a ha
    rcases List.mem_cons.mp ha with rfl | ha
    · exact h.requests req (List.mem_of_getElem? hi)
    · exact h.refs a ha
  -- a delivered password changes the key, never the flag
  have hflag : ∀ conn, s.connection.map (·.passwordReady r) = some conn →
      conn.passwordAuthenticated = false := by
    intro conn heq
    obtain ⟨conn', hc, rfl⟩ := Option.map_eq_some_iff.mp heq
    exact h.flag conn' hc
  simp only [ncSpake2PasswordReady]
  split_ifs
  · exact ⟨h.flag, hrefs _, hreqs⟩
  · exact ⟨hflag, hrefs _, hreqs⟩
  · exact ⟨hflag, hrefs _, hreqs⟩

theorem passwordReady_confirmed_iff (s : Spake2State) (i : ℕ) (req : PasswordRequest)
    (r : CalculatedKey) : (ncSpake2PasswordReady s i req r).Confirmed ↔ s.Confirmed := by
  simp only [ncSpake2PasswordReady]
  split_ifs <;> simp [Spake2State.Confirmed]

theorem setPasswordRequestCallback_eq (s : Spake2State) :
    (ncSpake2SetPasswordRequestCallback s).2 = { s with passwordRequestHandler := true } := by
  unfold ncSpake2SetPasswordRequestCallback
  split
  · next h => rw [← h]
  · rfl

variable {s' : Spake2State} {e : Spake2Event}

theorem spake2Step_unauthenticated (h : s.Unauthenticated) (hs : spake2Step sha256 s e = some s') :
    s'.Unauthenticated := by
  cases e with
  | openConnection =>
    obtain ⟨-, rfl⟩ := Machine.of_guard hs
    exact openConnection_unauthenticated h
  | destroyConnection =>
    obtain ⟨-, rfl⟩ := Machine.of_guard hs
    exact destroyConnection_unauthenticated h
  | setPasswordRequestCallback =>
    cases hs
    rw [setPasswordRequestCallback_eq]
    exact ⟨h.flag, h.refs, h.requests⟩
  | clearPasswordRequestCallback =>
    cases hs
    exact ⟨h.flag, h.refs, h.requests⟩
  | pwdAuth1 request =>
    obtain ⟨conn, hc, rfl⟩ := Option.map_eq_some_iff.mp hs
    exact handleCoap1_unauthenticated h hc request
  | pwdAuth2 payload =>
    obtain ⟨conn, hc, rfl⟩ := Option.map_eq_some_iff.mp hs
    exact handleCoap2_unauthenticated h hc payload
  | passwordReady i r =>
    obtain ⟨req, hi, rfl⟩ := Option.map_eq_some_iff.mp hs
    exact passwordReady_unauthenticated h hi r

/-- A connection after a step has a confirmed key exactly if the step confirmed it, or if it
is the connection from before the step and had one. -/
theorem spake2Step_confirmed_iff (h : s.Unauthenticated) (hs : spake2Step sha256 s e = some s')
    (hc' : s'.connection.isSome) :
    s'.Confirmed ↔ confirmsKey sha256 s e = true ∨ (s.connection.isSome ∧ s.Confirmed) := by
  cases e with
  | openConnection =>
    obtain ⟨hnone, rfl⟩ := Machine.of_guard hs
    have := openConnection_not_confirmed h
    simp_all [confirmsKey]
  | destroyConnection =>
    obtain ⟨-, rfl⟩ := Machine.of_guard hs
    cases hc'
  | setPasswordRequestCallback =>
    cases hs
    rw [setPasswordRequestCallback_eq] at hc' ⊢
    have hc : s.connection.isSome := hc'
    simp [confirmsKey, hc, Spake2State.Confirmed]
  | clearPasswordRequestCallback =>
    cases hs
    have hc : s.connection.isSome := hc'
    simp [confirmsKey, hc, Spake2State.Confirmed, ncSpake2ClearPasswordRequestCallback]
  | pwdAuth1 request =>
    obtain ⟨conn, hc, rfl⟩ := Option.map_eq_some_iff.mp hs
    rw [handleCoap1_confirmed_iff]
    simp [confirmsKey, hc]
  | pwdAuth2 payload =>
    obtain ⟨conn, hc, rfl⟩ := Option.map_eq_some_iff.mp hs
    rw [handleCoap2_confirmed_iff hc]
    simp [hc]
  | passwordReady i r =>
    obtain ⟨req, hi, rfl⟩ := Option.map_eq_some_iff.mp hs
    have hc : s.connection.isSome := by
      simp only [ncSpake2PasswordReady] at hc'
      split_ifs at hc' <;> simpa using hc'
    rw [passwordReady_confirmed_iff]
    simp [confirmsKey, hc]

theorem spake2Step_iff (h : s.Unauthenticated) (hgood : AuthenticatedIffConfirmed s)
    (hs : spake2Step sha256 s e = some s') :
    AuthenticatedIffConfirmed s' ↔ confirmsKey sha256 s e = false := by
  have hold : ¬ (s.connection.isSome ∧ s.Confirmed) := by
    rintro ⟨hsome, hconf⟩
    obtain ⟨conn, hc⟩ := Option.isSome_iff_exists.mp hsome
    exact (h.good_iff hc).mp hgood hconf
  cases hc' : s'.connection with
  | some conn =>
    have hconf := spake2Step_confirmed_iff h hs (by rw [hc']; rfl)
    rw [(spake2Step_unauthenticated h hs).good_iff hc', hconf]
    simp [hold]
  | none =>
    -- no connection is left, so the event was not a request
    have hgood' : AuthenticatedIffConfirmed s' := by simp [AuthenticatedIffConfirmed, hc']
    refine iff_of_true hgood' ?_
    cases e with
    | pwdAuth2 payload =>
      obtain ⟨conn, -, rfl⟩ := Option.map_eq_some_iff.mp hs
      cases hc'
    | _ => rfl

/-- Over every run of password authentication requests on the connections of a slot, the
flag of a connection says whether a request of `p2p/pwd-auth/2` on it was answered with
2.01, if and only if no request ever confirms a key. -/
theorem authenticated_iff_confirmed_iff {evs : List Spake2Event} {s : Spake2State}
    (h : (spake2 sha256).Run evs s) :
    (∀ t, (spake2 sha256).Visits evs t → AuthenticatedIffConfirmed t) ↔
      ∀ t e, (spake2 sha256).Takes evs t e → confirmsKey sha256 t e = false := by
  have hinit : AuthenticatedIffConfirmed ncSpake2Init := by
    simp [AuthenticatedIffConfirmed, ncSpake2Init]
  exact h.good_iff_takes Spake2State.Unauthenticated AuthenticatedIffConfirmed
    (fun t e => confirmsKey sha256 t e = false) init_unauthenticated hinit
    fun t e t' hinv hgood hs =>
      ⟨spake2Step_iff hinv hgood hs, fun _ => spake2Step_unauthenticated hinv hs⟩

def keyExchangedRun : List Spake2Event :=
  [.setPasswordRequestCallback, .openConnection,
   .pwdAuth1 { payload := some [0xa2], username := .textString [0x61], t := .byteString [4] },
   .passwordReady 0 { key := some (List.replicate 32 1), s := [4] }]

/-- A client that does not have the key. -/
theorem authenticated_iff_confirmed_wrong_key :
    (∃ s, (spake2 Sha256.hash).Run (keyExchangedRun ++ [.pwdAuth2 (some (List.replicate 32 0))]) s ∧
      s.answers.map (·.response.code) = [⟨4, 1⟩, ⟨2, 1⟩]) ∧
    ∀ t, (spake2 Sha256.hash).Visits
        (keyExchangedRun ++ [.pwdAuth2 (some (List.replicate 32 0))]) t →
      AuthenticatedIffConfirmed t := by
  have hrun : ∃ s, (spake2 Sha256.hash).Run
      (keyExchangedRun ++ [.pwdAuth2 (some (List.replicate 32 0))]) s ∧
      s.answers.map (·.response.code) = [⟨4, 1⟩, ⟨2, 1⟩] :=
    ⟨_, Machine.run_of_exec rfl, by decide +kernel⟩
  refine ⟨hrun, ?_⟩
  obtain ⟨s, hs, -⟩ := hrun
  rw [authenticated_iff_confirmed_iff hs]
  intro t e ht
  have hall : (spake2 Sha256.hash).allTaken (fun t e => !confirmsKey Sha256.hash t e)
      (spake2 Sha256.hash).init
      (keyExchangedRun ++ [.pwdAuth2 (some (List.replicate 32 0))]) = true := by decide +kernel
  exact Machine.takes_eq_false_of_allTaken hall ht

/-- A client that has the key. Its request is answered with 2.01, and its connection still
counts as not authenticated. -/
theorem confirmed_connection_not_authenticated :
    ∃ s conn, (spake2 Sha256.hash).Run
        (keyExchangedRun ++
          [.pwdAuth2 (some (Sha256.hash (Sha256.hash (List.replicate 32 1))))]) s ∧
      s.answers.map (fun a => (a.resource, a.response.code)) = [(.two, ⟨2, 1⟩), (.one, ⟨2, 1⟩)] ∧
      s.connection = some conn ∧ ncClientConnectionIsPasswordAuthenticated conn = false ∧
      ¬ AuthenticatedIffConfirmed s := by
  refine ⟨_, _, Machine.run_of_exec rfl, by decide +kernel, rfl, rfl, ?_⟩
  intro hgood
  have hflag := (hgood _ rfl).mpr ⟨_, List.mem_cons_self, rfl, rfl, by decide +kernel⟩
  cases hflag

end NabtoDevice
