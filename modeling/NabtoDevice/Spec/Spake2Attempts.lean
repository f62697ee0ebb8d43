import NabtoDevice.Spec.CalculateKey

/-! Password authentication with the key exchange of `src/core/nc_spake2.c` in the place of its
results, and an observer of the connection in the slot. The observer counts the requests that get
past the limit and keeps the keys of the exchanges that were answered with 2.01 and the keys that
confirmations were compared with. -/

namespace NabtoDevice

/-- The events of `Spake2Event`; a password comes with the operations of mbedtls. -/
inductive PwdAuthEvent (A : Type)
  | openConnection
  | destroyConnection
  | setPasswordRequestCallback
  | clearPasswordRequestCallback
  | pwdAuth1 (request : PwdAuth1Request)
  | pwdAuth2 (payload : Option (List UInt8))
  | passwordReady (i : ℕ) (env : ExchangeEnv A) (password : Option (List UInt8))
      (fingerprintClient fingerprintDevice : List UInt8)

structure AttemptLog where
  passed : ℕ := 0
  created : List (List UInt8) := []
  compared : List (List UInt8) := []
  deriving DecidableEq, Repr

structure AttemptedState where
  s : Spake2State
  log : AttemptLog
  deriving DecidableEq, Repr

/-- A request in this state finds a handler and a count, with itself, within the limit. -/
def passesLimit (s : Spake2State) : Bool :=
  s.passwordRequestHandler && s.connection.any fun conn =>
    decide (conn.countRequest.passwordAuthenticationRequests ≤
      ncSpake2MaxPasswordAuthenticationRequests)

/-- The key a confirmation is compared with; the response then is 2.01 or 4.01. -/
def comparedKey (sha256 : List UInt8 → List UInt8) (s : Spake2State)
    (payload : Option (List UInt8)) : Option (List UInt8) :=
  s.connection.bind fun conn =>
    let code := (pwdAuth2Response sha256 s.passwordRequestHandler conn.countRequest payload).code
    if code = ⟨2, 1⟩ ∨ code = ⟨4, 1⟩ then some conn.spake2Key else none

/-- The key of an exchange whose response, the latest one of `s'`, is 2.01 and goes to the
connection in the slot. -/
def createdKey (s' : Spake2State) (r : CalculatedKey) : Option (List UInt8) :=
  if s'.answers.head?.any fun a =>
      a.connectionRef == s'.connectionRef && a.resource == .one &&
        a.response.code == ⟨2, 1⟩ then r.key
  else none

section

variable {A : Type} [AddCommGroup A] (P : Spake2Params A)

def attemptsStep (t : AttemptedState) : PwdAuthEvent A → Option AttemptedState
  | .openConnection => (spake2Step P.sha256 t.s .openConnection).map fun s' => ⟨s', {}⟩
  | .destroyConnection => (spake2Step P.sha256 t.s .destroyConnection).map fun s' => ⟨s', t.log⟩
  | .setPasswordRequestCallback =>
    (spake2Step P.sha256 t.s .setPasswordRequestCallback).map fun s' => ⟨s', t.log⟩
  | .clearPasswordRequestCallback =>
    (spake2Step P.sha256 t.s .clearPasswordRequestCallback).map fun s' => ⟨s', t.log⟩
  | .pwdAuth1 request =>
    (spake2Step P.sha256 t.s (.pwdAuth1 request)).map fun s' =>
      ⟨s', { t.log with passed := t.log.passed + (passesLimit t.s).toNat }⟩
  | .pwdAuth2 payload =>
    (spake2Step P.sha256 t.s (.pwdAuth2 payload)).map fun s' =>
      ⟨s', { t.log with
        passed := t.log.passed + (passesLimit t.s).toNat
        compared := t.log.compared ++ (comparedKey P.sha256 t.s payload).toList }⟩
  | .passwordReady i env password fpClient fpDevice =>
    t.s.passwordRequests[i]?.bind fun req =>
      let r := calculatedKey P env req password fpClient fpDevice
      (spake2Step P.sha256 t.s (.passwordReady i r)).map fun s' =>
        ⟨s', { t.log with created := t.log.created ++ (createdKey s' r).toList }⟩

def pwdAuthAttempts : Machine AttemptedState (PwdAuthEvent A) where
  init := ⟨ncSpake2Init, {}⟩
  step := attemptsStep P

end

end NabtoDevice
