import Mathlib.Data.Int.Notation
import Mathlib.Data.List.Basic
import Mathlib.Tactic.Common

/-! Computations that access a memory and record what they access. A block carries its
length as an integer, since a length that a program computes by a subtraction can be
negative. `Safe n` says that all the accesses are inside the first `n` places. -/

inductive Access
  | place (i : ℕ)
  | block (start : ℕ) (len : ℤ)
  deriving DecidableEq, Repr

namespace Access

def InBounds (n : ℕ) : Access → Prop
  | place i => i < n
  | block start len => 0 ≤ len ∧ start + len ≤ n

instance (n : ℕ) : DecidablePred (InBounds n)
  | place i => inferInstanceAs (Decidable (i < n))
  | block start len => inferInstanceAs (Decidable (0 ≤ len ∧ start + len ≤ n))

/-- The length of the read is a number of places. -/
def defined : Access → Bool
  | place _ => true
  | block _ len => decide (0 ≤ len)

end Access

structure Traced (α : Type*) where
  val : α
  accesses : List Access

namespace Traced

variable {α β : Type*}

instance : Monad Traced where
  pure a := ⟨a, []⟩
  bind t f := ⟨(f t.val).val, t.accesses ++ (f t.val).accesses⟩

def readPlace (mem : ℕ → α) (i : ℕ) : Traced α := ⟨mem i, [.place i]⟩

def readBlock (mem : ℕ → α) (start : ℕ) (len : ℤ) : Traced (List α) :=
  ⟨(List.range len.toNat).map fun k => mem (start + k), [.block start len]⟩

/-- A write of `len` places; what is written is not kept. -/
def writeBlock (start : ℕ) (len : ℤ) : Traced Unit := ⟨(), [.block start len]⟩

/-- No block is read whose length is negative. -/
def defined (t : Traced α) : Bool := t.accesses.all Access.defined

def Safe (n : ℕ) (t : Traced α) : Prop := ∀ a ∈ t.accesses, a.InBounds n

instance (n : ℕ) (t : Traced α) : Decidable (t.Safe n) :=
  inferInstanceAs (Decidable (∀ a ∈ t.accesses, a.InBounds n))

section

variable {α β : Type} {n : ℕ}

@[simp] theorem val_pure (a : α) : (pure a : Traced α).val = a := rfl

@[simp] theorem val_bind (t : Traced α) (f : α → Traced β) : (t >>= f).val = (f t.val).val := rfl

@[simp] theorem val_readPlace (mem : ℕ → α) (i : ℕ) : (readPlace mem i).val = mem i := rfl

@[simp] theorem safe_pure (a : α) : (pure a : Traced α).Safe n := by
  intro x hx
  cases hx

@[simp] theorem safe_bind (t : Traced α) (f : α → Traced β) :
    (t >>= f).Safe n ↔ t.Safe n ∧ (f t.val).Safe n :=
  List.forall_mem_append

@[simp] theorem safe_readPlace (mem : ℕ → α) (i : ℕ) : (readPlace mem i).Safe n ↔ i < n := by
  simp [Safe, readPlace, Access.InBounds]

@[simp] theorem safe_readBlock (mem : ℕ → α) (start : ℕ) (len : ℤ) :
    (readBlock mem start len).Safe n ↔ 0 ≤ len ∧ start + len ≤ n := by
  simp [Safe, readBlock, Access.InBounds]

@[simp] theorem safe_writeBlock (start : ℕ) (len : ℤ) :
    (writeBlock start len).Safe n ↔ 0 ≤ len ∧ start + len ≤ n := by
  simp [Safe, writeBlock, Access.InBounds]

end

end Traced
