import NabtoDevice.Spec.CoapPacketPrinter
import Mathlib.Algebra.Ring.Nat

/-! The buffer of the packet printer. `safeWrite` asks for 40 free bytes and then prints a
text of any length, so the printer stays in its buffer exactly for the packets none of
whose lines starts at most 984 bytes into the output and ends behind its 1023rd byte. -/

namespace NabtoDevice

def optionLineLength (o : CoapOption) : ℕ :=
  match o.option, o.value with
  | .uriPath, _ | .uriHost, _ => 12 + (o.data.takeWhile (· != 0)).length
  | .uriPort, some value => 12 + (formatD value).length
  | .block1, some value | .block2, some value => 10 + (blockToString value).length
  | _, _ =>
    22 + (coapOptionToString o.option).length + (formatD (UInt32.ofNat o.data.length)).length

/-- The lengths of the header, the message line, the line "Options", one line for each
option and the payload line. -/
def lineLengths (header : List UInt8) : Option NabtoCoapIncomingMessage → List ℕ
  | none => [header.length, 14]
  | some message =>
    [header.length,
      36 + (coapTypeToString message.type).length + (coapCodeToString message.code).length +
        (formatD message.messageId.toUInt32).length + 2 * message.token.length, 10] ++
      message.options.map optionLineLength ++
      [18 + (formatD (UInt32.ofNat message.payloadLength)).length]

/-- A line that starts where at least 40 bytes are free ends, with its terminator, inside
the buffer. -/
def LinesFit (lengths : List ℕ) : Prop :=
  ∀ (before : List ℕ) (len : ℕ), before ++ [len] <+: lengths → before.sum ≤ 984 →
    before.sum + len < 1024

def writeTexts (ptr : Option ℕ) : List (List UInt8) → Traced (Option ℕ)
  | [] => pure ptr
  | text :: texts => do
    let ptr ← safeWrite ptr text
    writeTexts ptr texts

def printedTexts (header : List UInt8) : Option NabtoCoapIncomingMessage → List (List UInt8)
  | none => [header, ascii "Invalid packet"]
  | some message =>
    [header, messageText message, ascii ", Options:"] ++ message.options.map optionText ++
      [ascii ", Payload Length: " ++ formatD (UInt32.ofNat message.payloadLength)]

@[simp] theorem length_formatHex (b : UInt8) : (formatHex b).length = 2 := rfl

theorem length_tokenToString (token : List UInt8) :
    (tokenToString token).length = 2 * token.length := by
  induction token with
  | nil => rfl
  | cons b token ih =>
    rw [tokenToString, List.flatMap_cons, List.length_append, length_formatHex]
    rw [tokenToString] at ih
    rw [ih, List.length_cons]
    omega

theorem length_otherOptionText (o : CoapOption) :
    (otherOptionText o).length =
      22 + (coapOptionToString o.option).length +
        (formatD (UInt32.ofNat o.data.length)).length := by
  simp only [otherOptionText, List.length_append]
  have h2 : (ascii ", ").length = 2 := by decide
  have h20 : (ascii ": OptionDataLength: ").length = 20 := by decide
  omega

theorem length_optionText (o : CoapOption) : (optionText o).length = optionLineLength o := by
  obtain ⟨option, data, value⟩ := o
  cases option with
  | uriPath | uriHost => exact List.length_append
  | uriPort | block1 | block2 =>
    cases value with
    | none => exact length_otherOptionText _
    | some value => exact List.length_append
  | _ => exact length_otherOptionText _

theorem length_messageText (message : NabtoCoapIncomingMessage) :
    (messageText message).length =
      36 + (coapTypeToString message.type).length + (coapCodeToString message.code).length +
        (formatD message.messageId.toUInt32).length + 2 * message.token.length := by
  simp only [messageText, List.length_append, length_tokenToString]
  have h6 : (ascii "Type: ").length = 6 := by decide
  have h8 : (ascii ", Code: ").length = 8 := by decide
  have h13 : (ascii ", MessageId: ").length = 13 := by decide
  have h9 : (ascii ", Token: ").length = 9 := by decide
  omega

theorem lengths_printedTexts (header : List UInt8) (message : Option NabtoCoapIncomingMessage) :
    (printedTexts header message).map List.length = lineLengths header message := by
  cases message with
  | none => rfl
  | some message =>
    have hoptions : List.length ∘ optionText = optionLineLength := funext length_optionText
    simp only [printedTexts, lineLengths, List.map_append, List.map_cons, List.map_nil,
      List.map_map, hoptions, length_messageText, List.length_append]
    rfl

theorem safe_writeTexts_append {n : ℕ} (ptr : Option ℕ) (texts texts' : List (List UInt8)) :
    (writeTexts ptr (texts ++ texts')).Safe n ↔
      (writeTexts ptr texts).Safe n ∧ (writeTexts (writeTexts ptr texts).val texts').Safe n := by
  induction texts generalizing ptr with
  | nil => simp [writeTexts]
  | cons text texts ih =>
    simp only [List.cons_append, writeTexts, Traced.safe_bind, Traced.val_bind, ih, and_assoc]

theorem printOptions_eq (ptr : Option ℕ) (options : List CoapOption) :
    printOptions ptr options = writeTexts ptr (options.map optionText) := by
  induction options generalizing ptr with
  | nil => rfl
  | cons o options ih =>
    rw [List.map_cons, printOptions, writeTexts]
    exact congrArg _ (funext ih)

theorem safe_ncCoapPacketPrint {n : ℕ} (header : List UInt8)
    (message : Option NabtoCoapIncomingMessage) :
    (ncCoapPacketPrint header message).Safe n ↔
      (writeTexts (some 0) (printedTexts header message)).Safe n := by
  cases message with
  | none => simp [ncCoapPacketPrint, printedTexts, writeTexts]
  | some message =>
    rw [printedTexts, safe_writeTexts_append, safe_writeTexts_append]
    simp [ncCoapPacketPrint, writeTexts, printOptions_eq, and_assoc]

theorem safe_writeTexts_none {n : ℕ} (texts : List (List UInt8)) :
    (writeTexts none texts).Safe n := by
  induction texts with
  | nil => exact Traced.safe_pure _
  | cons text texts ih => exact (Traced.safe_bind _ _).mpr ⟨Traced.safe_pure _, ih⟩

theorem safeWrite_refused {ptr : ℕ} (text : List UInt8) (h : 984 < ptr) :
    safeWrite (some ptr) text = pure none := by
  have hsize : printBufferSize = 1024 := rfl
  by_cases hend : printBufferSize < ptr
  · exact if_pos hend
  · exact (if_neg hend).trans (if_pos (by omega))

theorem safeWrite_written {ptr : ℕ} (text : List UInt8) (h : ptr ≤ 984) :
    safeWrite (some ptr) text =
      Traced.writeBlock ptr (text.length + 1) >>= fun _ => pure (some (ptr + text.length)) := by
  have hsize : printBufferSize = 1024 := rfl
  exact (if_neg (by omega)).trans (if_neg (by omega))

/-- `LinesFit` from the offset `ptr` on. -/
theorem safe_writeTexts_iff (ptr : ℕ) (texts : List (List UInt8)) :
    (writeTexts (some ptr) texts).Safe 1024 ↔
      ∀ (before : List ℕ) (len : ℕ), before ++ [len] <+: texts.map List.length →
        ptr + before.sum ≤ 984 → ptr + before.sum + len < 1024 := by
  induction texts generalizing ptr with
  | nil => simp [writeTexts]
  | cons text texts ih =>
    rw [writeTexts, Traced.safe_bind]
    by_cases hptr : ptr ≤ 984
    · rw [safeWrite_written text hptr]
      simp only [Traced.safe_bind, Traced.safe_writeBlock, Traced.safe_pure, Traced.val_bind,
        Traced.val_pure, ih, and_true]
      constructor
      · rintro ⟨⟨-, hfirst⟩, hrest⟩ before len hpre hstart
        cases before with
        | nil =>
          obtain ⟨rfl, -⟩ := List.cons_prefix_cons.mp hpre
          simp only [List.sum_nil, Nat.add_zero]
          omega
        | cons l before =>
          obtain ⟨rfl, hpre'⟩ := List.cons_prefix_cons.mp hpre
          rw [List.sum_cons] at hstart ⊢
          have := hrest before len hpre' (by omega)
          omega
      · intro hall
        refine ⟨⟨by omega, ?_⟩, fun before len hpre hstart => ?_⟩
        · have := hall [] text.length (by simp) (by simpa using hptr)
          simp only [List.sum_nil, Nat.add_zero] at this
          omega
        · have := hall (text.length :: before) len (by simpa using hpre)
            (by rw [List.sum_cons]; omega)
          rw [List.sum_cons] at this
          omega
    · -- the pointer is NULL from here on
      rw [safeWrite_refused text (by omega)]
      simp only [Traced.safe_pure, Traced.val_pure, safe_writeTexts_none, true_and, true_iff]
      intro before len _ hstart
      omega

/-- The writes stay inside the buffer if and only if every line that starts at 984 or before ends
inside of it. -/
theorem packet_print_in_buffer_iff (header : List UInt8)
    (message : Option NabtoCoapIncomingMessage) :
    (ncCoapPacketPrint header message).Safe 1024 ↔ LinesFit (lineLengths header message) := by
  rw [safe_ncCoapPacketPrint, safe_writeTexts_iff, lengths_printedTexts]
  simp only [Nat.zero_add]
  rfl

/-- A GET of the path "iam" is printed inside the buffer. -/
example : (ncCoapPacketPrint (ascii "coap server handle packet")
    (some ⟨.con, 1, 4711, [1, 2], [⟨.uriPath, ascii "iam", none⟩], 0⟩)).Safe 1024 := by
  decide +kernel

def longPathMessage : NabtoCoapIncomingMessage where
  type := .con
  code := 1
  messageId := 4711
  token := [1, 2]
  options := [⟨.uriPath, List.replicate 1000 97, none⟩]
  payloadLength := 0

theorem packet_print_overruns_buffer :
    (ascii "coap server handle packet").length ≤ 40 ∧
    Access.block 85 1013 ∈
      (ncCoapPacketPrint (ascii "coap server handle packet") (some longPathMessage)).accesses ∧
    ¬ (ncCoapPacketPrint (ascii "coap server handle packet") (some longPathMessage)).Safe 1024 := by
  decide +kernel

end NabtoDevice
