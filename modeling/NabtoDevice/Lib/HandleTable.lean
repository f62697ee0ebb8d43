import Mathlib.Data.List.Basic
import Mathlib.Data.List.Nodup
import Mathlib.Tactic.Common

/-! Slots that hold objects and are used again. Every object gets a handle when it is created,
and an object is found by its handle. If no handle is given twice, a handle finds the object it
was given to as long as that is in its slot, and nothing afterwards. -/

namespace HandleTable

variable {κ : Type*}

/-- The objects are numbered in the order they were created. -/
structure Table (κ : Type*) where
  handles : List κ
  /-- The number of the object in each slot. -/
  slots : List (Option ℕ)

namespace Table

variable {t : Table κ}

/-- The object with the handle `k` is created in slot `i`. -/
def create (t : Table κ) (i : ℕ) (k : κ) : Table κ :=
  ⟨t.handles ++ [k], t.slots.set i (some t.handles.length)⟩

def drop (t : Table κ) (i : ℕ) : Table κ := { t with slots := t.slots.set i none }

/-- The handle of what is in a slot. -/
def handleAt (t : Table κ) (slot : Option ℕ) : Option κ := slot.bind fun n => t.handles[n]?

def lookup [DecidableEq κ] (t : Table κ) (k : κ) : Option ℕ :=
  t.slots.findIdx? fun slot => decide (t.handleAt slot = some k)

structure Sound (t : Table κ) : Prop where
  nodup : t.handles.Nodup
  known : ∀ i n : ℕ, t.slots[i]? = some (some n) → n < t.handles.length
  apart : ∀ i j n : ℕ, t.slots[i]? = some (some n) → t.slots[j]? = some (some n) → i = j

theorem Sound.create (h : t.Sound) {k : κ} (hfresh : k ∉ t.handles) (i : ℕ) :
    (t.create i k).Sound := by
  -- a number is the new one or was known before
  have hold {j n : ℕ} (hj : (t.create i k).slots[j]? = some (some n)) :
      j = i ∧ n = t.handles.length ∨ j ≠ i ∧ t.slots[j]? = some (some n) := by
    by_cases heq : j = i
    · subst heq
      rw [Table.create, List.getElem?_set_self'] at hj
      cases hs : t.slots[j]? with
      | none => simp [hs] at hj
      | some slot => exact Or.inl ⟨rfl, by simpa [hs] using hj.symm⟩
    · rw [Table.create, List.getElem?_set_ne (Ne.symm heq)] at hj
      exact Or.inr ⟨heq, hj⟩
  refine ⟨List.nodup_append.mpr ⟨h.nodup, List.nodup_singleton k, ?_⟩, fun j n hj => ?_,
    fun j j' n hj hj' => ?_⟩
  · intro a ha b hb heq
    rw [List.mem_singleton.mp hb] at heq
    exact hfresh (heq ▸ ha)
  · rw [Table.create, List.length_append, List.length_singleton]
    rcases hold hj with ⟨-, rfl⟩ | ⟨-, hj⟩
    · exact Nat.lt_succ_self _
    · exact Nat.lt_succ_of_lt (h.known j n hj)
  · rcases hold hj with ⟨hji, hn⟩ | ⟨-, hk⟩
    · rcases hold hj' with ⟨hji', -⟩ | ⟨-, hk'⟩
      · exact hji.trans hji'.symm
      · exact absurd (h.known j' n hk') (by omega)
    · rcases hold hj' with ⟨-, hn⟩ | ⟨-, hk'⟩
      · exact absurd (h.known j n hk) (by omega)
      · exact h.apart j j' n hk hk'

theorem Sound.drop (h : t.Sound) (i : ℕ) : (t.drop i).Sound := by
  have hold {j n : ℕ} (hj : (t.drop i).slots[j]? = some (some n)) : t.slots[j]? =
      some (some n) := by
    by_cases heq : i = j
    · subst heq
      rw [Table.drop, List.getElem?_set_self'] at hj
      cases hs : t.slots[i]? <;> simp [hs] at hj
    · rwa [Table.drop, List.getElem?_set_ne heq] at hj
  exact ⟨h.nodup, fun j n hj => h.known j n (hold hj),
    fun j j' n hj hj' => h.apart j j' n (hold hj) (hold hj')⟩

/-- A handle finds the slot of the object it was given to. -/
theorem Sound.lookup_eq [DecidableEq κ] (h : t.Sound) {n : ℕ} {k : κ}
    (hn : t.handles[n]? = some k) :
    t.lookup k = t.slots.findIdx? fun slot => decide (slot = some n) := by
  refine congrArg (fun p => t.slots.findIdx? p) (funext fun slot => decide_eq_decide.mpr ?_)
  cases slot with
  | none => simp [handleAt]
  | some m =>
    simp only [handleAt, Option.bind_some, Option.some.injEq]
    constructor
    · intro hm
      obtain ⟨hlt, -⟩ := List.getElem?_eq_some_iff.mp hm
      exact (List.getElem?_inj hlt h.nodup).mp (hm.trans hn.symm)
    · rintro rfl
      exact hn

/-- A handle that was not given to an object finds none. -/
theorem lookup_eq_none [DecidableEq κ] {k : κ} (hk : k ∉ t.handles) : t.lookup k = none := by
  refine List.findIdx?_eq_none_iff.mpr fun slot _ => decide_eq_false fun hslot => hk ?_
  cases slot with
  | none => cases hslot
  | some m => exact List.mem_of_getElem? hslot

/-- The handles of the slots. -/
def keys (t : Table κ) : List (Option κ) := t.slots.map t.handleAt

theorem Sound.keys_create (h : t.Sound) (i : ℕ) (k : κ) :
    (t.create i k).keys = t.keys.set i (some k) := by
  -- the handles of the objects known before stay where they are
  have hold : t.slots.map (t.create i k).handleAt = t.keys := by
    refine List.map_congr_left fun slot hslot => ?_
    cases slot with
    | none => rfl
    | some n =>
      obtain ⟨j, hj⟩ := List.getElem?_of_mem hslot
      exact List.getElem?_append_left (h.known j n hj)
  have hnew : (t.create i k).handleAt (some t.handles.length) = some k := by
    simp [Table.create, handleAt]
  rw [← hold, ← hnew, ← List.map_set]
  rfl

theorem keys_drop (t : Table κ) (i : ℕ) : (t.drop i).keys = t.keys.set i none := by
  rw [keys, keys, Table.drop, List.map_set]
  rfl

theorem lookup_eq_keys [DecidableEq κ] (t : Table κ) (k : κ) :
    t.lookup k = t.keys.findIdx? fun key => decide (key = some k) := by
  rw [keys, List.findIdx?_map]
  rfl

end Table

end HandleTable
