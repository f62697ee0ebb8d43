import NabtoDevice.Lib.ByteOrder
import NabtoDevice.Lib.Positional
import NabtoDevice.Spec.IpAddress
import Mathlib.Data.List.TakeWhile
import Mathlib.Data.Nat.ModEq

/-! `np_ip_address_read_v4` accepts every text that begins with four runs of digits with dots
between them, also when a run is empty, when its number is no byte, or when more text follows. It
reads the dotted quads right, and so what `np_ip_address_to_string` prints. -/

namespace NabtoDevice

def digitsValue (run : List UInt8) : ℕ := Positional.value 10 (run.map fun c => (c - 48).toNat)

def IsOctet (run : List UInt8) (octet : UInt8) : Prop :=
  run ≠ [] ∧ (∀ c ∈ run, isDigit c = true) ∧ digitsValue run = octet.toNat

/-- Four decimal numbers of at most 255, with dots between them and nothing behind. -/
def DottedQuad (str : List UInt8) (a b c d : UInt8) : Prop :=
  ∃ s₁ s₂ s₃ s₄, str = s₁ ++ 46 :: (s₂ ++ 46 :: (s₃ ++ 46 :: s₄)) ∧
    IsOctet s₁ a ∧ IsOctet s₂ b ∧ IsOctet s₃ c ∧ IsOctet s₄ d

/-- The text is accepted exactly as a dotted quad, which is then what it is read as. -/
structure ReadV4Sound (str : List UInt8) (ip : NpIpAddress) : Prop where
  accepts : (npIpAddressReadV4 str ip).1 = true ↔ ∃ a b c d, DottedQuad str a b c d
  octets : ∀ a b c d, DottedQuad str a b c d → (npIpAddressReadV4 str ip).2 = .v4 [a, b, c, d]
  unchanged : (npIpAddressReadV4 str ip).1 = false → (npIpAddressReadV4 str ip).2 = ip

structure QuadRuns where
  runs : List (List UInt8)
  rest : List UInt8
  deriving DecidableEq, Repr

def behindDot (str : List UInt8) : Option (List UInt8) :=
  match str.dropWhile isDigit with
  | 46 :: rest => some rest
  | _ => none

def quadRuns (s₁ : List UInt8) : Option QuadRuns := do
  let s₂ ← behindDot s₁
  let s₃ ← behindDot s₂
  let s₄ ← behindDot s₃
  pure ⟨[s₁, s₂, s₃, s₄].map (·.takeWhile isDigit), s₄.dropWhile isDigit⟩

/-- A text that begins with four runs has nothing behind them, and each is the number of a byte. -/
def NothingLoose (str : List UInt8) : Prop :=
  ∀ q, quadRuns str = some q → q.rest = [] ∧ ∀ run ∈ q.runs, run ≠ [] ∧ digitsValue run ≤ 255

theorem readNumber_rest (n : UInt32) (str : List UInt8) :
    (readNumber n str).2 = str.dropWhile isDigit := by
  induction str generalizing n with
  | nil => rfl
  | cons c str ih =>
    rw [readNumber, List.dropWhile_cons]
    split_ifs
    · exact ih _
    · rfl

/-- The number is read modulo `2 ^ 32`. -/
theorem readNumber_toNat (n : UInt32) (str : List UInt8) :
    (readNumber n str).1.toNat =
      (n.toNat * 10 ^ (str.takeWhile isDigit).length +
        digitsValue (str.takeWhile isDigit)) % 2 ^ 32 := by
  induction str generalizing n with
  | nil => simp [readNumber, digitsValue, Positional.value]
  | cons c str ih =>
    rw [readNumber, List.takeWhile_cons]
    split_ifs
    · have hnext : (n * 10 + (c - 48).toUInt32).toNat =
          (n.toNat * 10 + (c - 48).toNat) % 2 ^ 32 := by
        rw [UInt32.toNat_add, UInt32.toNat_mul, UInt8.toNat_toUInt32, Nat.mod_add_mod]
        rfl
      have hdigits (run : List UInt8) :
          n.toNat * 10 ^ (c :: run).length + digitsValue (c :: run) =
            (n.toNat * 10 + (c - 48).toNat) * 10 ^ run.length + digitsValue run := by
        rw [digitsValue, List.map_cons, Positional.value_cons, List.length_map, List.length_cons,
          ← digitsValue]
        ring
      rw [ih, hnext, hdigits]
      exact ((Nat.mod_modEq _ _).mul_right _).add_right _
    · simp [digitsValue, Positional.value]

theorem readNumber_octet (str : List UInt8) :
    (readNumber 0 str).1.toUInt8 = UInt8.ofNat (digitsValue (str.takeWhile isDigit)) := by
  apply UInt8.toNat.inj
  rw [UInt32.toNat_toUInt8, readNumber_toNat, UInt8.toNat_ofNat', UInt32.toNat_zero]
  omega

theorem readNumberDot_eq (str : List UInt8) :
    readNumberDot str = (behindDot str).map fun rest => ((readNumber 0 str).1, rest) := by
  rw [readNumberDot, behindDot, ← readNumber_rest 0 str]
  rcases readNumber 0 str with ⟨n, rest⟩
  simp only
  split <;> simp_all

def octetsOf (q : QuadRuns) : List UInt8 := q.runs.map fun run => UInt8.ofNat (digitsValue run)

theorem npIpAddressReadV4_eq (str : List UInt8) (ip : NpIpAddress) :
    npIpAddressReadV4 str ip =
      match quadRuns str with
      | none => (false, ip)
      | some q => (true, .v4 (octetsOf q)) := by
  simp only [npIpAddressReadV4, quadRuns, readNumberDot_eq]
  cases h₁ : behindDot str with
  | none => rfl
  | some s₂ =>
    cases h₂ : behindDot s₂ with
    | none => simp [h₂]
    | some s₃ =>
      cases h₃ : behindDot s₃ with
      | none => simp [h₂, h₃]
      | some s₄ => simp [h₂, h₃, octetsOf, readNumber_octet]

theorem takeWhile_run {run rest : List UInt8} (hrun : ∀ c ∈ run, isDigit c = true) :
    (run ++ 46 :: rest).takeWhile isDigit = run ∧ behindDot (run ++ 46 :: rest) = some rest := by
  have hdot : isDigit 46 = false := rfl
  rw [behindDot, List.takeWhile_append_of_pos hrun, List.dropWhile_append_of_pos hrun]
  simp [hdot]

theorem quadRuns_of_dottedQuad {str : List UInt8} {a b c d : UInt8} (h : DottedQuad str a b c d) :
    ∃ q, quadRuns str = some q ∧ octetsOf q = [a, b, c, d] ∧ q.rest = [] ∧
      ∀ run ∈ q.runs, run ≠ [] ∧ digitsValue run ≤ 255 := by
  obtain ⟨s₁, s₂, s₃, s₄, rfl, ⟨hn₁, hd₁, hv₁⟩, ⟨hn₂, hd₂, hv₂⟩, ⟨hn₃, hd₃, hv₃⟩, hn₄, hd₄,
    hv₄⟩ := h
  have htake₄ : s₄.takeWhile isDigit = s₄ := List.takeWhile_eq_self_iff.mpr hd₄
  have hdrop₄ : s₄.dropWhile isDigit = [] := List.dropWhile_eq_nil_iff.mpr hd₄
  refine ⟨⟨[s₁, s₂, s₃, s₄], []⟩, ?_, ?_, rfl, ?_⟩
  · simp [quadRuns, takeWhile_run hd₁, takeWhile_run hd₂, takeWhile_run hd₃, htake₄, hdrop₄]
  · simp [octetsOf, hv₁, hv₂, hv₃, hv₄]
  · have hle : ∀ octet : UInt8, octet.toNat ≤ 255 := fun octet => Nat.le_of_lt_succ octet.toNat_lt
    simp [hn₁, hn₂, hn₃, hn₄, hv₁, hv₂, hv₃, hv₄, hle]

theorem isOctet_takeWhile {str : List UInt8} (hne : str.takeWhile isDigit ≠ [])
    (hle : digitsValue (str.takeWhile isDigit) ≤ 255) :
    IsOctet (str.takeWhile isDigit) (UInt8.ofNat (digitsValue (str.takeWhile isDigit))) := by
  refine ⟨hne, fun c hc => List.mem_takeWhile_imp hc, ?_⟩
  rw [UInt8.toNat_ofNat_of_lt' (Nat.lt_succ_of_le hle)]

theorem eq_of_behindDot {str rest : List UInt8} (h : behindDot str = some rest) :
    str = str.takeWhile isDigit ++ 46 :: rest := by
  rw [behindDot] at h
  split at h
  · next htail =>
    cases h
    rw [← htail, List.takeWhile_append_dropWhile]
  · cases h

/-- Runs that are numbers of bytes, with nothing behind them, are a dotted quad. -/
theorem dottedQuad_of_quadRuns {str : List UInt8} {q : QuadRuns} (h : quadRuns str = some q)
    (hrest : q.rest = [])
    (hruns : ∀ run ∈ q.runs, run ≠ [] ∧ digitsValue run ≤ 255) :
    ∃ a b c d, DottedQuad str a b c d := by
  simp only [quadRuns, Option.bind_eq_bind, Option.bind_eq_some_iff, Option.pure_def,
    Option.some.injEq] at h
  obtain ⟨s₂, h₂, s₃, h₃, s₄, h₄, rfl⟩ := h
  simp only [List.map_cons, List.map_nil, List.forall_mem_cons] at hruns hrest
  obtain ⟨⟨hn₁, hv₁⟩, ⟨hn₂, hv₂⟩, ⟨hn₃, hv₃⟩, ⟨hn₄, hv₄⟩, -⟩ := hruns
  have hs₄ : s₄.takeWhile isDigit = s₄ :=
    List.takeWhile_eq_self_iff.mpr (List.dropWhile_eq_nil_iff.mp hrest)
  refine ⟨_, _, _, _, _, _, _, _, ?_, isOctet_takeWhile hn₁ hv₁, isOctet_takeWhile hn₂ hv₂,
    isOctet_takeWhile hn₃ hv₃, isOctet_takeWhile hn₄ hv₄⟩
  rw [hs₄, ← eq_of_behindDot h₄, ← eq_of_behindDot h₃]
  exact eq_of_behindDot h₂

theorem isOctet_printDecimal (n : UInt8) : IsOctet (printDecimal n) n := by
  revert n
  simp only [IsOctet, ← List.all_eq_true]
  apply ByteOrder.forall_byte
  decide +kernel

theorem dottedQuad_toString (a b c d : UInt8) :
    DottedQuad (npIpAddressToString (.v4 [a, b, c, d])) a b c d := by
  refine ⟨_, _, _, _, ?_, isOctet_printDecimal a, isOctet_printDecimal b, isOctet_printDecimal c,
    isOctet_printDecimal d⟩
  simp [npIpAddressToString, List.intercalate]

/-- A text is read as it should be exactly if it has no loose ends. What is printed for an address
has none. -/
theorem npIpAddressReadV4_sound_iff (str : List UInt8) (ip : NpIpAddress) :
    (ReadV4Sound str ip ↔ NothingLoose str) ∧
      ∀ a b c d, npIpAddressReadV4 (npIpAddressToString (.v4 [a, b, c, d])) ip =
        (true, .v4 [a, b, c, d]) := by
  refine ⟨⟨fun hsound q hq => ?_, fun hloose => ⟨⟨fun hok => ?_, ?_⟩, ?_, fun hfail => ?_⟩⟩,
    fun a b c d => ?_⟩
  · have hok : (npIpAddressReadV4 str ip).1 = true := by rw [npIpAddressReadV4_eq, hq]
    obtain ⟨a, b, c, d, hquad⟩ := hsound.accepts.mp hok
    obtain ⟨q', hq', -, hrest, hruns⟩ := quadRuns_of_dottedQuad hquad
    obtain rfl : q = q' := Option.some.inj (hq.symm.trans hq')
    exact ⟨hrest, hruns⟩
  · rw [npIpAddressReadV4_eq] at hok
    cases hq : quadRuns str with
    | none => rw [hq] at hok; cases hok
    | some q => exact dottedQuad_of_quadRuns hq (hloose q hq).1 (hloose q hq).2
  · rintro ⟨a, b, c, d, hquad⟩
    obtain ⟨q, hq, -⟩ := quadRuns_of_dottedQuad hquad
    rw [npIpAddressReadV4_eq, hq]
  · intro a b c d hquad
    obtain ⟨q, hq, hoctets, -⟩ := quadRuns_of_dottedQuad hquad
    rw [npIpAddressReadV4_eq, hq, ← hoctets]
  · rw [npIpAddressReadV4_eq] at hfail ⊢
    cases hq : quadRuns str with
    | none => rfl
    | some q => rw [hq] at hfail; cases hfail
  · obtain ⟨q, hq, hoctets, -⟩ := quadRuns_of_dottedQuad (dottedQuad_toString a b c d)
    rw [npIpAddressReadV4_eq, hq, ← hoctets]

/-- "..." is read as 0.0.0.0, and "1.2.3.256" as 1.2.3.0. -/
theorem npIpAddressReadV4_accepts_loose :
    ∃ str, npIpAddressReadV4 str (.v4 [9, 9, 9, 9]) = (true, .v4 [1, 2, 3, 0]) ∧
      npIpAddressReadV4 [46, 46, 46] (.v4 [9, 9, 9, 9]) = (true, .v4 [0, 0, 0, 0]) ∧
      ¬ ReadV4Sound str (.v4 [9, 9, 9, 9]) ∧ ¬ ReadV4Sound [46, 46, 46] (.v4 [9, 9, 9, 9]) := by
  refine ⟨[49, 46, 50, 46, 51, 46, 50, 53, 54], rfl, rfl, fun hsound => ?_, fun hsound => ?_⟩
  · obtain ⟨a, b, c, d, hquad⟩ := hsound.accepts.mp rfl
    obtain ⟨q, hq, -, -, hruns⟩ := quadRuns_of_dottedQuad hquad
    cases hq
    exact absurd hruns (by decide)
  · obtain ⟨a, b, c, d, hquad⟩ := hsound.accepts.mp rfl
    obtain ⟨q, hq, -, -, hruns⟩ := quadRuns_of_dottedQuad hquad
    cases hq
    exact absurd hruns (by decide)

end NabtoDevice
