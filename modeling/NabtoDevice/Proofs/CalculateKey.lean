import NabtoDevice.Spec.CalculateKey
import NabtoDevice.Proofs.Spake2
import Mathlib.Data.ZMod.Basic

/-! The key exchange computes the key of the password-authenticated exchange when all operations
succeed. When one fails, the key of the connection is replaced unless `mbedtls_md_finish` leaves
it alone. -/

namespace NabtoDevice

variable {call : ExchangeCall}

namespace ExchangeEnv

variable {A : Type} {env : ExchangeEnv A}

theorem point_of_ok (h : env.ok call = true) (value : A) : env.point call value = value := if_pos h

theorem int_of_ok (h : env.ok call = true) (value : ℤ) : env.int call value = value := if_pos h

theorem bytes_of_ok (h : env.ok call = true) (value : List UInt8) : env.bytes call value = value :=
  if_pos h

end ExchangeEnv

def frame (data : List UInt8) : List UInt8 := lengthBytes data.length ++ data

theorem hashData_of_ok {A : Type} {env : ExchangeEnv A} (h : ∀ i, env.ok (.mdUpdate i) = true)
    (i : Fin 12)
    (hashed data : List UInt8) : hashData env i hashed data = hashed ++ frame data := by
  simp only [hashData, ExchangeEnv.mdUpdate, ExchangeEnv.bytes_of_ok (h _), frame,
    List.append_assoc]

variable {fpClient fpDevice : List UInt8}

section

variable {A : Type} [AddCommGroup A] (P : Spake2Params A) (env : ExchangeEnv A)

def transcript (fingerprintClient fingerprintDevice : List UInt8) (T S K : A) (w : ℤ) :
    List UInt8 :=
  frame fingerprintClient ++ frame fingerprintDevice ++ frame (P.writePoint T) ++
    frame (P.writePoint S) ++ frame (P.writePoint K) ++ frame (P.writeMpi w)

variable {env}

variable {P}

/-- A status of zero means that every call succeeded and the mpi fits. -/
theorem calculateKey_ok_iff {T : A} {password : Option (List UInt8)} :
    (calculateKey P env T password fpClient fpDevice).ok = true ↔
      (∀ call ∈ calculateKeyCalls, env.ok call = true) ∧
        (P.writeMpi (passwordMpi P env password)).length ≤ 256 := by
  simp only [calculateKey, Bool.and_eq_true, List.all_eq_true, decide_eq_true_eq]

theorem hashedTranscript_of_ok (h : ∀ call ∈ calculateKeyCalls, env.ok call = true) {T S K : A}
    {w : ℤ} (hw : (P.writeMpi w).length ≤ 256) :
    hashedTranscript P env fpClient fpDevice T S K w = transcript P fpClient fpDevice T S K w := by
  have hupdate : ∀ i, env.ok (.mdUpdate i) = true := fun i => h _ (by simp [calculateKeyCalls])
  simp (disch := exact h _ (by decide)) only [hashedTranscript, hashData_of_ok hupdate,
    ExchangeEnv.bytes_of_ok, if_neg (Nat.not_lt.mpr hw), List.nil_append, transcript]

/-- Without failures the device sends its share and computes the key from the client's one. -/
theorem calculateKey_of_ok {T : A} {password : Option (List UInt8)}
    (hok : (calculateKey P env T password fpClient fpDevice).ok = true) :
    (calculateKey P env T password fpClient fpDevice).s =
        P.responderShare env.y (passwordMpi P env password) ∧
      (calculateKey P env T password fpClient fpDevice).k =
        P.responderKey env.y (passwordMpi P env password) T ∧
      (calculateKey P env T password fpClient fpDevice).key =
        some (P.sha256 (transcript P fpClient fpDevice T
          (calculateKey P env T password fpClient fpDevice).s
          (calculateKey P env T password fpClient fpDevice).k (passwordMpi P env password))) := by
  obtain ⟨h, hsize⟩ := calculateKey_ok_iff.mp hok
  have hfinish := h .mdFinish (by decide)
  refine ⟨?_, ?_, ?_⟩
  · simp (disch := exact h _ (by decide)) only [calculateKey, ExchangeEnv.point_of_ok,
      ExchangeEnv.int_of_ok, PasswordGroup.responderShare]
    module
  · simp (disch := exact h _ (by decide)) only [calculateKey, ExchangeEnv.point_of_ok,
      ExchangeEnv.int_of_ok, PasswordGroup.responderKey]
    rw [P.emod_zsmul]
    module
  · simp only [calculateKey, if_pos hfinish, hashedTranscript_of_ok h hsize]

/-- With the client's password the device sends `y*G + w*N` and computes `(x*y)*G`, the client
computes the same from what it gets, and both hash the same transcript. With another password the
device computes another point. -/
theorem spake2_keys_agree (P : Spake2Params A) (env : ExchangeEnv A) (T : A)
    (password : Option (List UInt8)) (fpClient fpDevice : List UInt8) (x : ℤ)
    (hok : (calculateKey P env T password fpClient fpDevice).ok = true) :
    (T = x • P.G + passwordMpi P env password • P.M →
      (calculateKey P env T password fpClient fpDevice).s =
          env.y • P.G + passwordMpi P env password • P.N ∧
        (calculateKey P env T password fpClient fpDevice).k = (x * env.y) • P.G ∧
        x • ((calculateKey P env T password fpClient fpDevice).s -
            passwordMpi P env password • P.N) =
          (calculateKey P env T password fpClient fpDevice).k ∧
        (calculateKey P env T password fpClient fpDevice).key =
          some (P.sha256 (transcript P fpClient fpDevice T
            (calculateKey P env T password fpClient fpDevice).s
            (x • ((calculateKey P env T password fpClient fpDevice).s -
              passwordMpi P env password • P.N))
            (passwordMpi P env password)))) ∧
    ∀ w' : ℤ, T = x • P.G + w' • P.M → ¬ w' ≡ passwordMpi P env password [ZMOD P.n] → P.M ≠ 0 →
      ¬ env.y ≡ 0 [ZMOD P.n] →
        (calculateKey P env T password fpClient fpDevice).k ≠ (x * env.y) • P.G := by
  obtain ⟨hs, hk, hkey⟩ := calculateKey_of_ok hok
  constructor
  · intro hT
    have hdevice : (calculateKey P env T password fpClient fpDevice).k = (x * env.y) • P.G := by
      rw [hk, hT]
      exact P.responderKey_initiatorShare x env.y _
    have hclient : x • ((calculateKey P env T password fpClient fpDevice).s -
        passwordMpi P env password • P.N) =
          (calculateKey P env T password fpClient fpDevice).k := by
      rw [hdevice, hs]
      exact P.initiatorKey_responderShare x env.y _
    refine ⟨hs, hdevice, hclient, ?_⟩
    rw [hclient]
    exact hkey
  · intro w' hT hw hM hy
    rw [hk, hT]
    exact P.responderKey_ne hw hM hy

end

/-- The integers modulo 11 in the place of the curve, with bytes as encodings. -/
def smallParams : Spake2Params (ZMod 11) where
  n := 11
  G := 1
  M := 2
  N := 3
  prime := by decide
  card := by rw [Nat.card_zmod]
  generates a := AddSubgroup.mem_zmultiples_iff.mpr ⟨a.val, by simp⟩
  sha256 := Sha256.hash
  readPoint bytes := (bytes.getLastD 0).toNat
  writePoint a := [4, UInt8.ofNat a.val]
  readMpi bytes := (bytes.headD 0).toNat
  writeMpi w := [UInt8.ofNat w.toNat]

def succeedingEnv : ExchangeEnv (ZMod 11) where
  ok _ := true
  y := 7
  random := []
  failedPoint _ := 0
  failedInt _ := 0
  failedBytes _ := []
  failedKey := none

/-- The first byte of the hash of "a" is 202. One client has that password, the other one has
203. -/
theorem spake2_keys_agree_small :
    passwordMpi smallParams succeedingEnv (some [97]) = 202 ∧
    (calculateKey smallParams succeedingEnv ((5 : ℤ) • 1 + (202 : ℤ) • 2) (some [97]) [1] [2]).ok =
      true ∧
    (calculateKey smallParams succeedingEnv ((5 : ℤ) • 1 + (202 : ℤ) • 2) (some [97]) [1] [2]).k =
      ((5 : ℤ) * 7) • 1 ∧
    (calculateKey smallParams succeedingEnv ((5 : ℤ) • 1 + (203 : ℤ) • 2) (some [97]) [1] [2]).k ≠
      ((5 : ℤ) * 7) • 1 := by
  have hw : passwordMpi smallParams succeedingEnv (some [97]) = 202 := by decide +kernel
  have hok (T : ZMod 11) :
      (calculateKey smallParams succeedingEnv T (some [97]) [1] [2]).ok = true := by
    rw [calculateKey_ok_iff]
    exact ⟨fun _ _ => rfl, by rw [hw]; decide⟩
  refine ⟨hw, hok _, ?_, ?_⟩
  · exact ((spake2_keys_agree smallParams succeedingEnv _ (some [97]) [1] [2] 5 (hok _)).1
      (by rw [hw]; rfl)).2.1
  · apply (spake2_keys_agree smallParams succeedingEnv _ (some [97]) [1] [2] 5 (hok _)).2 203 rfl
    · rw [hw]
      decide
    · decide
    · decide

def Spake2State.lastCode (s : Spake2State) : Option CoapCode :=
  s.answers.head?.map (·.response.code)

def KeyKept (s s' : Spake2State) : Prop :=
  s'.connection.map (fun conn => (conn.hasSpake2Key, conn.spake2Key)) =
    s.connection.map fun conn => (conn.hasSpake2Key, conn.spake2Key)

variable (s : Spake2State) (i : ℕ)

section

variable {A : Type} [AddCommGroup A]

/-- An operation of the exchange fails, or the mpi does not fit. -/
def SomethingFails (P : Spake2Params A) (env : ExchangeEnv A) (password : Option (List UInt8)) :
    Prop :=
  (∃ call, env.ok call = false) ∨ 256 < (P.writeMpi (passwordMpi P env password)).length

/-- `mbedtls_md_finish` fails and leaves its output alone. -/
def ExchangeEnv.WritesNoKey (env : ExchangeEnv A) : Prop :=
  env.ok .mdFinish = false ∧ env.failedKey = none

theorem key_eq_none_iff (P : Spake2Params A) (env : ExchangeEnv A) (req : PasswordRequest)
    (password : Option (List UInt8)) (fpClient fpDevice : List UInt8) :
    (calculatedKey P env req password fpClient fpDevice).key = none ↔ env.WritesNoKey := by
  unfold ExchangeEnv.WritesNoKey
  cases hfinish : env.ok .mdFinish <;> simp [calculatedKey, calculateKey, hfinish]

theorem mem_calculateKeyCalls (call : ExchangeCall) :
    call = .groupLoad ∨ call = .writeResponse ∨ call ∈ calculateKeyCalls := by
  cases call <;> simp [calculateKeyCalls]

/-- The status collects the results of all calls. -/
theorem statusOk_eq_false_iff (P : Spake2Params A) (env : ExchangeEnv A) (req : PasswordRequest)
    (password : Option (List UInt8)) (fpClient fpDevice : List UInt8) :
    (calculatedKey P env req password fpClient fpDevice).statusOk = false ↔
      SomethingFails P env password := by
  rw [← Bool.not_eq_true, SomethingFails, ← not_iff_not, not_not, not_or, not_exists, Nat.not_lt]
  simp only [CalculatedKey.statusOk, calculatedKey, Bool.and_eq_true, calculateKey_ok_iff,
    Bool.not_eq_false]
  constructor
  · rintro ⟨⟨hload, hall, hsize⟩, hwrite⟩
    refine ⟨fun call => ?_, hsize⟩
    rcases mem_calculateKeyCalls call with rfl | rfl | hmem
    · exact hload
    · exact hwrite
    · exact hall call hmem
  · rintro ⟨hall, hsize⟩
    exact ⟨⟨hall _, fun call _ => hall call, hsize⟩, hall _⟩

theorem passwordReady_lastCode (req : PasswordRequest) (r : CalculatedKey) :
    (ncSpake2PasswordReady s i req r).lastCode = some ⟨2, 1⟩ ↔
      req.hasConnection = true ∧ r.statusOk = true := by
  unfold ncSpake2PasswordReady
  cases req.hasConnection <;> cases r.statusOk <;>
    simp [Spake2State.lastCode, coapErrorResponse, coapCreated]

theorem passwordReady_connection (req : PasswordRequest) (r : CalculatedKey) :
    (ncSpake2PasswordReady s i req r).connection =
      if req.hasConnection then s.connection.map (·.passwordReady r) else s.connection := by
  unfold ncSpake2PasswordReady
  cases req.hasConnection <;> cases r.statusOk <;> rfl

theorem passwordReady_passwordRequests (req : PasswordRequest) (r : CalculatedKey) :
    (ncSpake2PasswordReady s i req r).passwordRequests = s.passwordRequests.eraseIdx i := by
  unfold ncSpake2PasswordReady
  cases req.hasConnection <;> cases r.statusOk <;> rfl

theorem passwordReady_connectionRef (req : PasswordRequest) (r : CalculatedKey) :
    (ncSpake2PasswordReady s i req r).connectionRef = s.connectionRef := by
  unfold ncSpake2PasswordReady
  cases req.hasConnection <;> cases r.statusOk <;> rfl

/-- An exchange that fails without writing a key leaves the key of the connection as it is. -/
theorem keyKept_of_failed {req : PasswordRequest} {r : CalculatedKey} (hkey : r.key = none)
    (hstatus : r.statusOk = false) : KeyKept s (ncSpake2PasswordReady s i req r) := by
  rw [KeyKept, passwordReady_connection]
  cases req.hasConnection <;> cases s.connection <;>
    simp [PasswordAuthentication.passwordReady, hkey, hstatus]

/-- A key that was written replaces the one of some connection. -/
theorem key_eq_none_of_keyKept {req : PasswordRequest} {r : CalculatedKey}
    (hconn : req.hasConnection = true)
    (hkept : ∀ s, KeyKept s (ncSpake2PasswordReady s i req r)) : r.key = none := by
  cases hkey : r.key with
  | none => rfl
  | some key =>
    have hold := hkept { ncSpake2Init with
      connection := some { PasswordAuthentication.cleared with spake2Key := key ++ [0] } }
    rw [KeyKept, passwordReady_connection, hconn, if_pos rfl] at hold
    simp [PasswordAuthentication.passwordReady, hkey] at hold

/-- An exchange that is answered with an error keeps the key of every connection, whatever key it
has, if and only if, whenever an operation fails, `mbedtls_md_finish` fails and writes nothing. -/
theorem failed_exchange_keeps_key_iff (P : Spake2Params A) (env : ExchangeEnv A) (i : ℕ)
    (req : PasswordRequest) (password : Option (List UInt8)) (fpClient fpDevice : List UInt8) :
    (∀ s, (ncSpake2PasswordReady s i req
          (calculatedKey P env req password fpClient fpDevice)).lastCode ≠ some ⟨2, 1⟩ →
        KeyKept s
          (ncSpake2PasswordReady s i req (calculatedKey P env req password fpClient fpDevice))) ↔
      (req.hasConnection = true → SomethingFails P env password → env.WritesNoKey) := by
  simp only [Ne, passwordReady_lastCode,
    ← statusOk_eq_false_iff P env req password fpClient fpDevice,
      ← key_eq_none_iff P env req password fpClient fpDevice]
  generalize calculatedKey P env req password fpClient fpDevice = r
  constructor
  · intro hkept hconn hstatus
    refine key_eq_none_of_keyKept i hconn fun s => hkept s ?_
    simp [hstatus]
  · intro hnone s hcode
    cases hconn : req.hasConnection with
    | false => simp [KeyKept, passwordReady_connection, hconn]
    | true =>
      have hstatus : r.statusOk = false := by simpa [hconn] using hcode
      exact keyKept_of_failed s i (hnone hconn hstatus) hstatus

end

/-- The multiplication of T fails, as it does for the point at infinity. -/
def pointAtInfinityEnv : ExchangeEnv (ZMod 11) :=
  { succeedingEnv with ok := fun call => call != .muladdK }

/-- A second exchange on a connection that has a key, with the point at infinity for T. Its request
is answered with 5.00, and the key of the first exchange is gone. -/
theorem failed_exchange_replaces_key :
    ∃ s req conn,
      (spake2 Sha256.hash).Run
        (keyExchangedRun ++
          [.pwdAuth1
            { payload := some [0xa2], username := .textString [0x61], t := .byteString [0] }])
        s ∧
      s.passwordRequests = [req] ∧ s.connection = some conn ∧
      conn.hasSpake2Key = true ∧ conn.spake2Key = List.replicate 32 1 ∧
      (ncSpake2PasswordReady s 0 req
        (calculatedKey smallParams pointAtInfinityEnv req (some [97]) [1] [2])).lastCode =
          some ⟨5, 0⟩ ∧
      ¬ KeyKept s (ncSpake2PasswordReady s 0 req
        (calculatedKey smallParams pointAtInfinityEnv req (some [97]) [1] [2])) := by
  refine ⟨_, _, _, Machine.run_of_exec rfl, rfl, rfl, rfl, rfl, by decide +kernel, ?_⟩
  unfold KeyKept
  decide +kernel

end NabtoDevice
