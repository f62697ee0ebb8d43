import Mathlib.Data.List.Perm.Basic
import Mathlib.Data.List.Nodup
import Mathlib.Tactic.Common

/-! Sets and maps that are iterated as lists. The order of the iteration is not known, and an
operation may change it. -/

/-- Sets of elements of `α`, seen as the lists that iterating them gives. -/
structure UnorderedSet (α : Type*) [DecidableEq α] where
  insert : List α → α → List α
  erase : List α → α → List α
  insert_perm : ∀ l a, (insert l a).Perm (if a ∈ l then l else a :: l)
  erase_perm : ∀ l a, (erase l a).Perm (l.filter (· ≠ a))

/-- Maps from `κ` to `ν`, seen as the lists that iterating them gives. What inserting does with
a key that is already there is not known. -/
structure UnorderedMap (κ ν : Type*) where
  insert : List (κ × ν) → κ → ν → List (κ × ν)
  insert_perm : ∀ l k v, k ∉ l.map Prod.fst → (insert l k v).Perm ((k, v) :: l)

namespace UnorderedSet

variable {α : Type*} [DecidableEq α] (S : UnorderedSet α)

theorem insert_perm_of_notMem {l : List α} {a : α} (h : a ∉ l) : (S.insert l a).Perm (a :: l) := by
  simpa [h] using S.insert_perm l a

theorem insert_nil (a : α) : S.insert [] a = [a] :=
  List.perm_singleton.mp (S.insert_perm_of_notMem List.not_mem_nil)

/-- Inserting new elements one by one gives them all. -/
theorem foldl_insert_perm {l as : List α} (h : (l ++ as).Nodup) :
    (as.foldl S.insert l).Perm (l ++ as) := by
  induction as generalizing l with
  | nil => rw [List.append_nil]; rfl
  | cons a as ih =>
    have hmid : (l ++ a :: as).Perm (a :: l ++ as) := List.perm_middle
    have hnew : a ∉ l := by
      have hnodup := hmid.nodup_iff.mp h
      simp only [List.cons_append, List.nodup_cons, List.mem_append, not_or] at hnodup
      exact hnodup.1.1
    have hstep : (S.insert l a ++ as).Perm (a :: l ++ as) :=
      (S.insert_perm_of_notMem hnew).append_right as
    exact ((ih (hstep.nodup_iff.mpr (hmid.nodup_iff.mp h))).trans hstep).trans hmid.symm

/-- The set as a list in which a new element comes last. -/
def inOrder : UnorderedSet α where
  insert l a := if a ∈ l then l else l ++ [a]
  erase l a := l.filter (· ≠ a)
  insert_perm l a := by
    split_ifs
    · rfl
    · exact List.perm_append_singleton a l
  erase_perm _ _ := .refl _

end UnorderedSet

namespace UnorderedMap

variable {κ ν : Type*} (M : UnorderedMap κ ν)

/-- Inserting pairs with new keys one by one gives them all. -/
theorem foldl_insert_perm {l kvs : List (κ × ν)} (h : ((l ++ kvs).map Prod.fst).Nodup) :
    (kvs.foldl (fun m kv => M.insert m kv.1 kv.2) l).Perm (l ++ kvs) := by
  induction kvs generalizing l with
  | nil => rw [List.append_nil]; rfl
  | cons kv kvs ih =>
    have hmid : (l ++ kv :: kvs).Perm (kv :: l ++ kvs) := List.perm_middle
    have hnodup := (hmid.map Prod.fst).nodup_iff.mp h
    have hnew : kv.1 ∉ l.map Prod.fst := by
      simp only [List.cons_append, List.map_cons, List.map_append, List.nodup_cons,
        List.mem_append, not_or] at hnodup
      exact hnodup.1.1
    have hstep : (M.insert l kv.1 kv.2 ++ kvs).Perm (kv :: l ++ kvs) :=
      (M.insert_perm l kv.1 kv.2 hnew).append_right kvs
    exact ((ih ((hstep.map Prod.fst).nodup_iff.mpr hnodup)).trans hstep).trans hmid.symm

/-- The map as a list in which a new pair comes last. -/
def inOrder : UnorderedMap κ ν where
  insert l k v := l ++ [(k, v)]
  insert_perm l k v _ := List.perm_append_singleton (k, v) l

end UnorderedMap
