import Mathlib.Algebra.Group.Nat.Defs
import Mathlib.Data.List.Basic

/-! The hash function SHA-256 on byte lists. Words are natural numbers below `2 ^ 32`. -/

namespace Sha256

def add (a b : ℕ) : ℕ := (a + b) % 2 ^ 32

def rotr (n x : ℕ) : ℕ := (x >>> n) ||| ((x <<< (32 - n)) % 2 ^ 32)

/-- The round constants. -/
def k : List ℕ :=
  [0x428a2f98, 0x71374491, 0xb5c0fbcf, 0xe9b5dba5, 0x3956c25b, 0x59f111f1, 0x923f82a4, 0xab1c5ed5,
   0xd807aa98, 0x12835b01, 0x243185be, 0x550c7dc3, 0x72be5d74, 0x80deb1fe, 0x9bdc06a7, 0xc19bf174,
   0xe49b69c1, 0xefbe4786, 0x0fc19dc6, 0x240ca1cc, 0x2de92c6f, 0x4a7484aa, 0x5cb0a9dc, 0x76f988da,
   0x983e5152, 0xa831c66d, 0xb00327c8, 0xbf597fc7, 0xc6e00bf3, 0xd5a79147, 0x06ca6351, 0x14292967,
   0x27b70a85, 0x2e1b2138, 0x4d2c6dfc, 0x53380d13, 0x650a7354, 0x766a0abb, 0x81c2c92e, 0x92722c85,
   0xa2bfe8a1, 0xa81a664b, 0xc24b8b70, 0xc76c51a3, 0xd192e819, 0xd6990624, 0xf40e3585, 0x106aa070,
   0x19a4c116, 0x1e376c08, 0x2748774c, 0x34b0bcb5, 0x391c0cb3, 0x4ed8aa4a, 0x5b9cca4f, 0x682e6ff3,
   0x748f82ee, 0x78a5636f, 0x84c87814, 0x8cc70208, 0x90befffa, 0xa4506ceb, 0xbef9a3f7, 0xc67178f2]

structure State where
  a : ℕ
  b : ℕ
  c : ℕ
  d : ℕ
  e : ℕ
  f : ℕ
  g : ℕ
  h : ℕ

def init : State :=
  ⟨0x6a09e667, 0xbb67ae85, 0x3c6ef372, 0xa54ff53a, 0x510e527f, 0x9b05688c, 0x1f83d9ab, 0x5be0cd19⟩

/-- The next word of the message schedule; the list starts with the latest one. -/
def scheduleStep (w : List ℕ) : List ℕ :=
  let x := w.getD 1 0
  let y := w.getD 14 0
  add (add (rotr 17 x ^^^ rotr 19 x ^^^ (x >>> 10)) (w.getD 6 0))
    (add (rotr 7 y ^^^ rotr 18 y ^^^ (y >>> 3)) (w.getD 15 0)) :: w

def schedule (block : List ℕ) : List ℕ :=
  ((List.range 48).foldl (fun w _ => scheduleStep w) block.reverse).reverse

def round (s : State) (kw : ℕ) : State :=
  let ch := (s.e &&& s.f) ^^^ ((2 ^ 32 - 1 - s.e) &&& s.g)
  let maj := (s.a &&& s.b) ^^^ (s.a &&& s.c) ^^^ (s.b &&& s.c)
  let t₁ := add (add s.h (rotr 6 s.e ^^^ rotr 11 s.e ^^^ rotr 25 s.e)) (add ch kw)
  let t₂ := add (rotr 2 s.a ^^^ rotr 13 s.a ^^^ rotr 22 s.a) maj
  ⟨add t₁ t₂, s.a, s.b, s.c, add s.d t₁, s.e, s.f, s.g⟩

def compress (s : State) (block : List ℕ) : State :=
  let t := (List.zipWith add k (schedule block)).foldl round s
  ⟨add s.a t.a, add s.b t.b, add s.c t.c, add s.d t.d, add s.e t.e, add s.f t.f, add s.g t.g,
    add s.h t.h⟩

/-- The `n` lowest bytes of a number, the highest first. -/
def bytes (n x : ℕ) : List UInt8 := (List.range n).reverse.map fun i => UInt8.ofNat (x >>> (8 * i))

def pad (msg : List UInt8) : List UInt8 :=
  msg ++ 0x80 :: List.replicate ((119 - msg.length % 64) % 64) 0 ++ bytes 8 (8 * msg.length)

def words : ℕ → List UInt8 → List ℕ
  | 0, _ => []
  | n + 1, msg => (msg.take 4).foldl (fun x b => x * 256 + b.toNat) 0 :: words n (msg.drop 4)

def blocks : ℕ → List UInt8 → List (List ℕ)
  | 0, _ => []
  | n + 1, msg => words 16 (msg.take 64) :: blocks n (msg.drop 64)

def hash (msg : List UInt8) : List UInt8 :=
  let padded := pad msg
  let s := (blocks (padded.length / 64) padded).foldl compress init
  [s.a, s.b, s.c, s.d, s.e, s.f, s.g, s.h].flatMap (bytes 4)

/-- The hash of the text "abc". -/
example : hash [0x61, 0x62, 0x63] =
    [0xba, 0x78, 0x16, 0xbf, 0x8f, 0x01, 0xcf, 0xea, 0x41, 0x41, 0x40, 0xde, 0x5d, 0xae, 0x22, 0x23,
     0xb0, 0x03, 0x61, 0xa3, 0x96, 0x17, 0x7a, 0x9c, 0xb4, 0x10, 0xff, 0x61, 0xf2, 0x00, 0x15,
       0xad] := by
  decide +kernel

end Sha256
