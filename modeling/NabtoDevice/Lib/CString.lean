import Mathlib.Data.List.Basic
import Mathlib.Tactic.Common

/-! Byte arrays of a fixed size that are written as bytes and read as C strings. A
string that is copied without its terminator reads back as itself exactly when the
old content has a zero byte right behind it. -/

namespace CString

structure Buffer (n : ℕ) where
  bytes : List UInt8
  size : bytes.length = n
  deriving DecidableEq

variable {n : ℕ}

def zero (n : ℕ) : Buffer n := ⟨List.replicate n 0, List.length_replicate⟩

/-- `memcpy` to the start of the array; what does not fit is cut off. -/
def Buffer.write (b : Buffer n) (s : List UInt8) : Buffer n :=
  ⟨(s ++ b.bytes.drop s.length).take n, by
    rw [List.length_take, List.length_append, List.length_drop, b.size]; omega⟩

/-- The C string at the start of the array, where `behind` follows the array in memory. -/
def Buffer.read (b : Buffer n) (behind : List UInt8) : List UInt8 :=
  (b.bytes ++ behind).takeWhile (· != 0)

variable (b : Buffer n) {s : List UInt8}

theorem write_bytes (hs : s.length ≤ n) : (b.write s).bytes = s ++ b.bytes.drop s.length := by
  refine List.take_of_length_le ?_
  rw [List.length_append, List.length_drop, b.size]
  omega

theorem read_write (h0 : 0 ∉ s) (hs : s.length ≤ n) (behind : List UInt8) :
    (b.write s).read behind = s ++ (b.bytes.drop s.length ++ behind).takeWhile (· != 0) := by
  rw [Buffer.read, write_bytes b hs, List.append_assoc, List.takeWhile_append_of_pos]
  intro c hc
  exact bne_iff_ne.mpr fun h => h0 (h ▸ hc)

theorem read_write_iff (h0 : 0 ∉ s) (hs : s.length < n) (behind : List UInt8) :
    (b.write s).read behind = s ↔ b.bytes[s.length]? = some 0 := by
  have hlt : s.length < b.bytes.length := by rw [b.size]; exact hs
  rw [read_write b h0 (Nat.le_of_lt hs), List.append_right_eq_self, List.drop_eq_getElem_cons hlt,
    List.cons_append, List.getElem?_eq_getElem hlt, List.takeWhile_cons]
  by_cases hz : b.bytes[s.length] = 0 <;> simp [hz]

/-- A string that is copied with its terminator reads back as itself. -/
theorem read_write_terminated (h0 : 0 ∉ s) (hs : s.length < n) (behind : List UInt8) :
    (b.write (s ++ [0])).read behind = s := by
  have hle : (s ++ [0]).length ≤ n := by rw [List.length_append]; exact hs
  rw [Buffer.read, write_bytes b hle, List.append_assoc, List.append_assoc,
    List.takeWhile_append_of_pos]
  · simp
  · intro c hc
    exact bne_iff_ne.mpr fun h => h0 (h ▸ hc)

/-- The array holds the string `s` and zeros behind it. -/
structure Buffer.Holds (b : Buffer n) (s : List UInt8) : Prop where
  bytes : b.bytes = s ++ List.replicate (n - s.length) 0
  nonzero : 0 ∉ s
  room : s.length < n

variable {b} {t : List UInt8}

theorem holds_zero (hn : 0 < n) : (zero n).Holds [] := ⟨rfl, List.not_mem_nil, hn⟩

theorem Buffer.Holds.read (h : b.Holds s) (behind : List UInt8) : b.read behind = s := by
  have hzeros : n - s.length = n - s.length - 1 + 1 := by have := h.room; omega
  rw [Buffer.read, h.bytes, List.append_assoc, List.takeWhile_append_of_pos, hzeros,
    List.replicate_succ]
  · simp
  · intro c hc
    exact bne_iff_ne.mpr fun hc0 => h.nonzero (hc0 ▸ hc)

/-- A string that is not shorter replaces the old one. -/
theorem Buffer.Holds.write (h : b.Holds s) (h0 : 0 ∉ t) (ht : t.length < n)
    (hle : s.length ≤ t.length) : (b.write t).Holds t := by
  refine ⟨?_, h0, ht⟩
  rw [write_bytes b (Nat.le_of_lt ht), h.bytes, List.drop_append, List.drop_eq_nil_of_le hle,
    List.nil_append, List.drop_replicate]
  congr 2
  omega

/-- Behind a shorter one the rest of the old string is still there. -/
theorem Buffer.Holds.read_write_ne (h : b.Holds s) (h0 : 0 ∉ t) (hlt : t.length < s.length)
    (behind : List UInt8) : (b.write t).read behind ≠ t := by
  rw [Ne, read_write_iff b h0 (Nat.lt_trans hlt h.room), h.bytes, List.getElem?_append_left hlt]
  intro hzero
  exact h.nonzero (List.mem_of_getElem? hzero)

end CString
