import DidRegistry.Json.Canonical
import DidRegistry.Json.Literal
import DidRegistry.Json.Reader
import DidRegistry.Report
import DidRegistry.Text.Base64

/-!
# Payloads

What an operation carries: bytes in base64.  They are the UTF-8 text of a JSON object, the document,
or of the identifier that the operation is about.
-/

set_option autoImplicit false

namespace DidRegistry.Payload

/-- Why a payload cannot be read. -/
inductive Error where
  /-- It is no text. -/
  | notText
  | base64 (error : Text.Base64.Error)
  /-- Its bytes are no text. -/
  | notUtf8
  | json (error : Json.ReadError)
  /-- Its text is a JSON value and no object. -/
  | notAnObject (value : Json)
deriving DecidableEq, Repr

/-- The report of the error. -/
def Error.report : Error → Report
  | .notText => .silent .wrongType
  | .base64 e => e.report
  | .notUtf8 => .silent .undecodable
  | .json .malformed => .silent .jsonText
  | .json .tooLong => .silent .value
  | .json .tooDeep => .silent .tooDeep
  | .notAnObject v => .plain .value (say ("payload is not a JSON object: " ++ v.kindName))

/-- Whether a payload that is no text has a member that is a digit of the other base64 alphabet. -/
def hasForeignMember : Json → Bool
  | .arr items => items.any fun v => v = .str "+" || v = .str "/"
  | .obj members => members.any fun m => m.1 = "+" || m.1 = "/"
  | _ => false

/-- The bytes of a payload. -/
def bytes (payload : Text) : Except Error (List UInt8) :=
  (Text.Base64.decode payload.chars).mapError .base64

/-- The bytes of a payload that a value gives. -/
def bytesOf : Json → Except Error (List UInt8)
  | .str s => bytes s
  | v => .error (if hasForeignMember v then .base64 .plusOrSlash else .notText)

/-- The text of the bytes of a payload. -/
def textOf (payload : List UInt8) : Except Error (List Char) :=
  match Text.Utf8.decode payload with
  | some cs => .ok cs
  | none => .error .notUtf8

variable [Platform]

/-- The JSON object whose text the bytes are. -/
def objectOf (payload : List UInt8) : Except Error Json.Members :=
  match textOf payload with
  | .error e => .error e
  | .ok cs =>
    match Json.read (Text.ofChars cs).points with
    | .error e => .error (.json e)
    | .ok (.obj ms) => .ok ms
    | .ok v => .error (.notAnObject v)

/-- The payload that carries a document. -/
def ofDocument (document : Json) : Except Json.CanonicalError String :=
  document.canonicalBytes.map fun b => String.ofList (Text.Base64.encode b)

end DidRegistry.Payload
