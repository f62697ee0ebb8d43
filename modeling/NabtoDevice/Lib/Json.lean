import Mathlib.Data.List.Forall2
import Mathlib.Tactic.Common

/-! JSON values as ordered trees. An object may have several members of one name, and a lookup
takes the first one whose name agrees up to the case of ASCII letters. -/

inductive Json
  | null
  | bool (b : Bool)
  | number (literal : String)
  | string (s : String)
  | array (items : List Json)
  | object (members : List (String × Json))

namespace Json

def sameName (a b : String) : Bool := a.toList.map Char.toLower == b.toList.map Char.toLower

/-- The members of an object, and none for any other value. -/
def members : Json → List (String × Json)
  | .object ms => ms
  | _ => []

/-- The items of an array, and none for any other value. -/
def items : Json → List Json
  | .array xs => xs
  | _ => []

def string? : Json → Option String
  | .string s => some s
  | _ => none

@[simp] theorem map_string_bind_string? (s : Option String) :
    (s.map Json.string).bind string? = s := by
  cases s <;> rfl

def isArray : Json → Bool
  | .array _ => true
  | _ => false

theorem eq_array_of_isArray {json : Json} (h : json.isArray = true) : json = .array json.items := by
  cases json with
  | array xs => rfl
  | _ => cases h

theorem eq_object_of_members_ne_nil {json : Json} (h : json.members ≠ []) :
    json = .object json.members := by
  cases json with
  | object ms => rfl
  | _ => exact absurd rfl h

/-- All members of the name. -/
def named (json : Json) (name : String) : List Json :=
  (json.members.filter fun m => sameName m.1 name).map Prod.snd

/-- The first member of the name. -/
def getObjectItem (json : Json) (name : String) : Option Json :=
  (json.members.find? fun m => sameName m.1 name).map Prod.snd

theorem getObjectItem_eq_head? (json : Json) (name : String) :
    json.getObjectItem name = (json.named name).head? := by
  unfold getObjectItem named
  rw [List.head?_map, List.head?_filter]

theorem getObjectItem_cons (other name : String) (value : Json) (ms : List (String × Json)) :
    (Json.object ((other, value) :: ms)).getObjectItem name =
      if sameName other name then some value else (Json.object ms).getObjectItem name := by
  cases h : sameName other name <;> simp [getObjectItem, members, h]

theorem getObjectItem_append (name : String) (ms ms' : List (String × Json)) :
    (Json.object (ms ++ ms')).getObjectItem name =
      ((Json.object ms).getObjectItem name).or ((Json.object ms').getObjectItem name) := by
  simp only [getObjectItem, members, List.find?_append, Option.map_or]

@[simp] theorem getObjectItem_nil (name : String) : (Json.object []).getObjectItem name = none :=
  rfl

section

variable {σ : Type*} (insert : σ → String → σ)

/-- Takes up the strings of an array one by one, and fails on an item that is no string. -/
def foldStrings (acc : σ) : List Json → Option σ
  | [] => some acc
  | .string s :: rest => foldStrings (insert acc s) rest
  | _ :: _ => none

/-- Takes up the strings of an array one by one and passes over the other items. -/
def foldStringsOnly (acc : σ) : List Json → σ
  | [] => acc
  | .string s :: rest => foldStringsOnly (insert acc s) rest
  | _ :: rest => foldStringsOnly acc rest

theorem foldStrings_map_string (acc : σ) (l : List String) :
    foldStrings insert acc (l.map .string) = some (l.foldl insert acc) := by
  induction l generalizing acc with
  | nil => rfl
  | cons s l ih => exact ih (insert acc s)

theorem foldStringsOnly_map_string (acc : σ) (l : List String) :
    foldStringsOnly insert acc (l.map .string) = l.foldl insert acc := by
  induction l generalizing acc with
  | nil => rfl
  | cons s l ih => exact ih (insert acc s)

variable {insert}

theorem exists_of_foldStrings {acc out : σ} {xs : List Json}
    (h : foldStrings insert acc xs = some out) :
    ∃ l : List String, xs = l.map .string ∧ out = l.foldl insert acc := by
  induction xs generalizing acc with
  | nil => exact ⟨[], rfl, (Option.some.inj h).symm⟩
  | cons x xs ih =>
    cases x with
    | string s =>
      obtain ⟨l, hl, hout⟩ := ih h
      exact ⟨s :: l, by rw [hl, List.map_cons], hout⟩
    | _ => cases h

end

/-- A reader that undoes an encoder up to `R` on every element of a list undoes it on the
list. -/
theorem exists_mapM_of_forall {α β : Type*} {R : α → β → Prop} {encode : α → Json}
    {read : Json → Option β} {l : List α}
    (h : ∀ a ∈ l, ∃ b, read (encode a) = some b ∧ R a b) :
    ∃ out, (l.map encode).mapM read = some out ∧ List.Forall₂ R l out := by
  induction l with
  | nil => exact ⟨[], rfl, .nil⟩
  | cons a l ih =>
    rw [List.forall_mem_cons] at h
    obtain ⟨b, hb, hab⟩ := h.1
    obtain ⟨out, hout, hl⟩ := ih h.2
    exact ⟨b :: out, by simp [hb, hout], .cons hab hl⟩

/-- Reading a list of values reads each of them. -/
theorem forall₂_of_mapM {β : Type*} {read : Json → Option β} {xs : List Json} {out : List β}
    (h : xs.mapM read = some out) : List.Forall₂ (fun x b => read x = some b) xs out := by
  induction xs generalizing out with
  | nil =>
    obtain rfl : [] = out := Option.some.inj h
    exact .nil
  | cons x xs ih =>
    simp only [List.mapM_cons, Option.bind_eq_bind, Option.bind_eq_some_iff, Option.pure_def,
      Option.some.injEq] at h
    obtain ⟨b, hb, bs, hbs, rfl⟩ := h
    exact .cons hb (ih hbs)

end Json
