import NabtoDevice.Lib.Traced
import Mathlib.Algebra.BigOperators.Group.List.Basic

/-! The printer of CoAP packets for the log, `src/core/nc_coap_packet_printer.c`. It writes
its texts one after the other into a buffer of 1024 bytes, with `vsprintf` behind a check
for 40 free bytes. What the CoAP library finds in a packet is the input; texts are lists
of bytes, and a pointer into the buffer is an offset. -/

namespace NabtoDevice

inductive NabtoCoapType
  | con
  | non
  | ack
  | rst
  deriving DecidableEq, Repr

/-- The option numbers the printer knows. -/
inductive NabtoCoapOption
  | ifMatch
  | uriHost
  | etag
  | ifNoneMatch
  | uriPort
  | locationPath
  | uriPath
  | contentFormat
  | maxAge
  | uriQuery
  | accept
  | locationQuery
  | block2
  | block1
  | size2
  | proxyUri
  | proxyScheme
  | size1
  | other (option : UInt16)
  deriving DecidableEq, Repr

/-- What the option iterator stands on. `value` is what `nabto_coap_parse_variable_int` with
at most three bytes makes of the data. -/
structure CoapOption where
  option : NabtoCoapOption
  data : List UInt8
  value : Option UInt32
  deriving DecidableEq, Repr

structure NabtoCoapIncomingMessage where
  type : NabtoCoapType
  code : UInt8
  messageId : UInt16
  token : List UInt8
  options : List CoapOption
  payloadLength : ℕ
  deriving DecidableEq, Repr

def ascii (s : String) : List UInt8 := s.toList.map fun c => UInt8.ofNat c.toNat

def decimal (n : ℕ) : List UInt8 := (Nat.toDigits 10 n).map fun c => UInt8.ofNat c.toNat

/-- The conversion `%d`, which takes the 32 bits as a signed number. -/
def formatD (value : UInt32) : List UInt8 :=
  if value.toNat < 2147483648 then decimal value.toNat
  else ascii "-" ++ decimal (4294967296 - value.toNat)

/-- The conversion `%02hhx`. -/
def formatHex (value : UInt8) : List UInt8 :=
  [value >>> 4, value &&& 15].map fun d => if d < 10 then 48 + d else 87 + d

/-- The conversion `%.*s` with the length of the data as the precision. -/
def formatS (data : List UInt8) : List UInt8 := data.takeWhile (· != 0)

def blockToString (value : UInt32) : List UInt8 :=
  let blockSize : UInt32 := 16 <<< (value &&& 7)
  let more := (value &&& 15) >>> 3
  let num := value >>> 4
  formatD num ++ ascii "/" ++ formatD more.toUInt8.toUInt32 ++ ascii "/" ++
    formatD blockSize.toUInt16.toUInt32

def tokenToString (token : List UInt8) : List UInt8 := token.flatMap formatHex

def coapTypeToString : NabtoCoapType → List UInt8
  | .con => ascii "CON"
  | .non => ascii "NON"
  | .ack => ascii "ACK"
  | .rst => ascii "RST"

def unknownText (n : ℕ) : List UInt8 := ascii "UNKNOWN(" ++ decimal n ++ ascii ")"

def coapCodeToString (code : UInt8) : List UInt8 :=
  let codeClass := code >>> 5
  let detail := code &&& 31
  if codeClass = 0 ∧ detail = 0 then ascii "EMPTY"
  else if codeClass = 0 ∧ detail = 1 then ascii "GET"
  else if codeClass = 0 ∧ detail = 2 then ascii "POST"
  else if codeClass = 0 ∧ detail = 3 then ascii "PUT"
  else if codeClass = 0 ∧ detail = 4 then ascii "DELETE"
  else if codeClass > 1 ∧ codeClass ≤ 5 then
    -- `%02d`
    decimal codeClass.toNat ++ (if detail < 10 then ascii "0" else []) ++ decimal detail.toNat
  else unknownText code.toNat

def coapOptionToString : NabtoCoapOption → List UInt8
  | .ifMatch => ascii "IF_MATCH"
  | .uriHost => ascii "URI_HOST"
  | .etag => ascii "ETAG"
  | .ifNoneMatch => ascii "IF_NONE_MATCH"
  | .uriPort => ascii "URI_PORT"
  | .locationPath => ascii "LOCATION_PATH"
  | .uriPath => ascii "URI_PATH"
  | .contentFormat => ascii "CONTENT_FORMAT"
  | .maxAge => ascii "MAX_AGE"
  | .uriQuery => ascii "URI_QUERY"
  | .accept => ascii "ACCEPT"
  | .locationQuery => ascii "LOCATION_QUERY"
  | .size2 => ascii "SIZE2"
  | .proxyUri => ascii "PROXY_URI"
  | .proxyScheme => ascii "PROXY_SCHEME"
  | .size1 => ascii "OPTION_SIZE1"
  | .block2 => unknownText 23
  | .block1 => unknownText 27
  | .other option => unknownText option.toNat

def printBufferSize : ℕ := 1024

/-- `end` is `printBufferSize`. `vsprintf` also writes the terminator. -/
def safeWrite (buffer : Option ℕ) (text : List UInt8) : Traced (Option ℕ) :=
  match buffer with
  | none => pure none
  | some ptr =>
    if printBufferSize < ptr then pure none
    else if printBufferSize - ptr < 40 then pure none
    else do
      Traced.writeBlock ptr (text.length + 1)
      return some (ptr + text.length)

def messageText (message : NabtoCoapIncomingMessage) : List UInt8 :=
  ascii "Type: " ++ coapTypeToString message.type ++ ascii ", Code: " ++
    coapCodeToString message.code ++ ascii ", MessageId: " ++ formatD message.messageId.toUInt32 ++
    ascii ", Token: " ++ tokenToString message.token

def otherOptionText (o : CoapOption) : List UInt8 :=
  ascii ", " ++ coapOptionToString o.option ++ ascii ": OptionDataLength: " ++
    formatD (UInt32.ofNat o.data.length)

/-- The body of the loop over the options. -/
def optionText (o : CoapOption) : List UInt8 :=
  match o.option, o.value with
  | .uriPath, _ => ascii ", Uri-Path: " ++ formatS o.data
  | .uriHost, _ => ascii ", Uri-Host: " ++ formatS o.data
  | .uriPort, some value => ascii ", Uri-Port: " ++ formatD value
  | .block1, some value => ascii ", Block1: " ++ blockToString value
  | .block2, some value => ascii ", Block2: " ++ blockToString value
  | _, _ => otherOptionText o

def printOptions (ptr : Option ℕ) : List CoapOption → Traced (Option ℕ)
  | [] => pure ptr
  | o :: options => do
    let ptr ← safeWrite ptr (optionText o)
    printOptions ptr options

/-- `message` is `none` when `nabto_coap_parse_message` fails. The result is the last `ptr`:
if it is not `NULL` the buffer is logged. -/
def ncCoapPacketPrint (header : List UInt8) (message : Option NabtoCoapIncomingMessage) :
    Traced (Option ℕ) := do
  let ptr ← safeWrite (some 0) header
  match message with
  | none => safeWrite ptr (ascii "Invalid packet")
  | some message =>
    let ptr ← safeWrite ptr (messageText message)
    let ptr ← safeWrite ptr (ascii ", Options:")
    let ptr ← printOptions ptr message.options
    safeWrite ptr (ascii ", Payload Length: " ++ formatD (UInt32.ofNat message.payloadLength))

end NabtoDevice
