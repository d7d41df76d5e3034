import DidRegistry.Crypto.Keccak
import DidRegistry.Crypto.Sha2
import DidRegistry.Json.Basic
import DidRegistry.Report
import DidRegistry.Text.Hex
import DidRegistry.Text.Utf8

/-!
# Call data

A write to the registry contract is a call of `operationDID(string)`.  Its data are the first four
bytes of the hash of that signature, the distance of the text from the start of the arguments, the
length of the text, and its UTF-8 bytes filled up with zeros to a multiple of 32; the two numbers
take 32 bytes each.  Data are written as `0x` and hexadecimal digits.
-/

set_option autoImplicit false

namespace DidRegistry.CallData

/-- The signature of the only function that writes. -/
def signature : String := "operationDID(string)"

/-- The four bytes that name the function. -/
def selector : List UInt8 := (Keccak.hash (Text.Utf8.encode signature.toList)).take 4

/-- A number in 32 bytes. -/
def word (n : Nat) : List UInt8 := Sha2.toBytes 32 n

/-- The number of zeros after a text of `n` bytes. -/
def gap (n : Nat) : Nat := (32 - n % 32) % 32

/-- Why there are no call data. -/
inductive EncodeError where
  | empty
  | notText
deriving DecidableEq, Repr

/-- The report of the error. -/
def EncodeError.report : EncodeError → Report
  | .empty => .plain .value (say "payload must be non-empty")
  | .notText =>
    let cause := Report.silent .undecodable
    (Report.plain .value (say "payload must be UTF-8: " ++ cause.message)).because cause

/-- The bytes of a call with a payload. -/
def bytes (payload : List UInt8) : List UInt8 :=
  selector ++ word 32 ++ word payload.length ++ payload ++
    List.replicate (gap payload.length) 0x00

/-- The call data of a payload. -/
def encode (payload : List UInt8) : Except EncodeError String :=
  if payload.isEmpty then .error .empty
  else if (Text.Utf8.decode payload).isNone then .error .notText
  else .ok ("0x" ++ String.ofList (Text.Hex.encode (bytes payload)))

/-- Why call data have no payload. -/
inductive DecodeError where
  /-- They are no text. -/
  | notText
  | notHex
  /-- They call another function. -/
  | otherFunction (selector : List UInt8)
  /-- The arguments are no text. -/
  | malformed
deriving DecidableEq, Repr

/-- The report of the error. -/
def DecodeError.report : DecodeError → Report
  | .notText => .silent .noSuchOperation
  | .notHex => .silent .value
  | .otherFunction s =>
    .plain .value (say ("call data does not target " ++ signature ++ ": selector 0x" ++
      String.ofList (Text.Hex.encode s)))
  | .malformed =>
    let cause := Report.silent .callData
    (Report.plain .value (say "malformed call data: " ++ cause.message)).because cause

/-- The number in the first 32 bytes, and the bytes after it. -/
def readWord? (s : List UInt8) : Option (Nat × List UInt8) :=
  if s.length < 32 then none else some (Sha2.bigEndian (s.take 32), s.drop 32)

/-- The bytes of a text that starts with its length. -/
def readText? (s : List UInt8) : Option (List UInt8) :=
  (readWord? s).bind fun (length, s) =>
    let filled := length + gap length
    if s.length < filled then none
    else if ((s.take filled).drop length).any (· != 0x00) then none
    else
      let text := s.take length
      if (Text.Utf8.decode text).isNone then none else some text

/-- The payload that the arguments of a call hold.  The text starts behind its own distance. -/
def readArguments? (s : List UInt8) : Option (List UInt8) :=
  (readWord? s).bind fun (distance, _) =>
    if distance < 32 ∨ s.length ≤ distance then none else readText? (s.drop distance)

/-- The text without `0x` in front. -/
def dropMark : List Char → List Char
  | '0' :: 'x' :: r => r
  | s => s

/-- The payload of call data. -/
def decode (data : Text) : Except DecodeError (List UInt8) :=
  match Text.Hex.decode (dropMark data.chars) with
  | none => .error .notHex
  | some s =>
    if s.take 4 ≠ selector then .error (.otherFunction (s.take 4))
    else
      match readArguments? (s.drop 4) with
      | some payload => .ok payload
      | none => .error .malformed

/-- The payload of call data that a value gives. -/
def ofJson : Json → Except DecodeError (List UInt8)
  | .str t => decode t
  | _ => .error .notText

end DidRegistry.CallData
