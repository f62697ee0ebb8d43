import NabtoDevice.Lib.PasswordGroup
import NabtoDevice.Spec.Spake2

/-! The key exchange of `src/core/nc_spake2.c`: `calculateKey` with the operations of mbedtls one
by one. An operation that succeeds computes its value in the group or on integers; one that fails
leaves any value in its output. The hash function and the encodings are parameters. -/

namespace NabtoDevice

/-- The calls whose results `nc_spake2_password_ready` and `calculateKey` collect in `status`. -/
inductive ExchangeCall
  | groupLoad
  | readM
  | readN
  | seed
  | genKeypair
  | passwordHash
  | readW
  | lsetOne
  | muladdS
  | lsetMinusOne
  | mulY
  | mulW
  | modN
  | muladdK
  | mdSetup
  | mdStarts
  /-- The points and the password hash are written to buffers before they are hashed. -/
  | writeT
  | writeS
  | writeK
  | writeW
  | mdUpdate (i : Fin 12)
  | mdFinish
  | writeResponse
  deriving DecidableEq, Repr

/-- How the calls go, what the random generator yields, and what calls that fail leave in their
outputs. -/
structure ExchangeEnv (A : Type) where
  ok : ExchangeCall → Bool
  y : ℤ
  random : List UInt8
  failedPoint : ExchangeCall → A
  failedInt : ExchangeCall → ℤ
  failedBytes : ExchangeCall → List UInt8
  /-- What `mbedtls_md_finish` writes when it fails, if anything. -/
  failedKey : Option (List UInt8)

namespace ExchangeEnv

variable {A : Type} (env : ExchangeEnv A)

def point (call : ExchangeCall) (value : A) : A :=
  if env.ok call then value else env.failedPoint call

def int (call : ExchangeCall) (value : ℤ) : ℤ := if env.ok call then value else env.failedInt call

def bytes (call : ExchangeCall) (value : List UInt8) : List UInt8 :=
  if env.ok call then value else env.failedBytes call

/-- `mbedtls_md_update` on a context that holds the bytes hashed so far. -/
def mdUpdate (i : Fin 12) (hashed data : List UInt8) : List UInt8 :=
  env.bytes (.mdUpdate i) (hashed ++ data)

end ExchangeEnv

/-- The curve with its points, the hash function and the encodings. -/
structure Spake2Params (A : Type) [AddCommGroup A] extends PasswordGroup A where
  sha256 : List UInt8 → List UInt8
  readPoint : List UInt8 → A
  writePoint : A → List UInt8
  readMpi : List UInt8 → ℤ
  writeMpi : ℤ → List UInt8

/-- The four bytes of a `uint32_t`. -/
def lengthBytes (val : ℕ) : List UInt8 :=
  [UInt8.ofNat (val / 2 ^ 24), UInt8.ofNat (val / 2 ^ 16), UInt8.ofNat (val / 2 ^ 8),
    UInt8.ofNat val]

/-- `hashData`; the length goes in with the call `i` and the data with the next one. -/
def hashData {A : Type} (env : ExchangeEnv A) (i : Fin 12) (hashed data : List UInt8) :
    List UInt8 :=
  env.mdUpdate (i + 1) (env.mdUpdate i hashed (lengthBytes data.length)) data

structure CalculateKeyResult (A : Type) where
  ok : Bool
  s : A
  k : A
  /-- What was written to the key argument. -/
  key : Option (List UInt8)

def calculateKeyCalls : List ExchangeCall :=
  [.readM, .readN, .seed, .genKeypair, .passwordHash, .readW, .lsetOne, .muladdS, .lsetMinusOne,
   .mulY, .mulW, .modN, .muladdK, .mdSetup, .mdStarts, .writeT, .writeS, .writeK, .writeW] ++
    (List.finRange 12).map .mdUpdate ++ [.mdFinish]

section

variable {A : Type} [AddCommGroup A] (P : Spake2Params A) (env : ExchangeEnv A)

/-- The password hash as an integer. Without a password it is drawn at random. -/
def passwordMpi (password : Option (List UInt8)) : ℤ :=
  env.int .readW (P.readMpi (env.bytes .passwordHash
    (match password with
      | none => env.random
      | some password => P.sha256 password)))

/-- What has been hashed when `hashPoint` is done with T, S and K and `hashMpi` with w. An mpi of
more than 256 bytes is not hashed. -/
def hashedTranscript (fingerprintClient fingerprintDevice : List UInt8) (T S K : A) (w : ℤ) :
    List UInt8 :=
  let hashed := env.bytes .mdStarts []
  let hashed := hashData env 0 hashed fingerprintClient
  let hashed := hashData env 2 hashed fingerprintDevice
  let hashed := hashData env 4 hashed (env.bytes .writeT (P.writePoint T))
  let hashed := hashData env 6 hashed (env.bytes .writeS (P.writePoint S))
  let hashed := hashData env 8 hashed (env.bytes .writeK (P.writePoint K))
  if (P.writeMpi w).length > 256 then hashed
  else hashData env 10 hashed (env.bytes .writeW (P.writeMpi w))

/-- `status` stays zero if all calls return zero and the mpi fits. -/
def calculateKey (T : A) (password : Option (List UInt8))
    (fingerprintClient fingerprintDevice : List UInt8) : CalculateKeyResult A :=
  let M := env.point .readM P.M
  let N := env.point .readN P.N
  let y := env.int .genKeypair env.y
  let Y := env.point .genKeypair (env.y • P.G)
  let w := passwordMpi P env password
  let tmp := env.int .lsetOne 1
  -- S = N*w + Y*1
  let S := env.point .muladdS (w • N + tmp • Y)
  -- tmp = -w*y mod n
  let tmp := env.int .lsetMinusOne (-1)
  let tmp := env.int .mulY (tmp * y)
  let tmp := env.int .mulW (tmp * w)
  let tmp := env.int .modN (tmp % P.n)
  -- K = y*T + ((-y*w)*M)
  let K := env.point .muladdK (y • T + tmp • M)
  let hashed := hashedTranscript P env fingerprintClient fingerprintDevice T S K w
  { ok := calculateKeyCalls.all env.ok && decide ((P.writeMpi w).length ≤ 256)
    s := S
    k := K
    key := if env.ok .mdFinish then some (P.sha256 hashed) else env.failedKey }

/-- What the operations of `nc_spake2_password_ready` return for a request. -/
def calculatedKey (req : PasswordRequest) (password : Option (List UInt8))
    (fingerprintClient fingerprintDevice : List UInt8) : CalculatedKey :=
  let r := calculateKey P env (P.readPoint req.t) password fingerprintClient fingerprintDevice
  { groupLoadOk := env.ok .groupLoad
    calculateKeyOk := r.ok
    pointWriteOk := env.ok .writeResponse
    key := r.key
    s := env.bytes .writeResponse (P.writePoint r.s) }

end

end NabtoDevice
