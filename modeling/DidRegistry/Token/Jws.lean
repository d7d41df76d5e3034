import DidRegistry.Json.Reader
import DidRegistry.Report
import DidRegistry.Text.Base64

/-!
# Signed tokens

A token has three segments in base64 with dots between them: a header, a payload and a signature over
the first two as they are written.  The header is a JSON object.
-/

set_option autoImplicit false

namespace DidRegistry

/-- What is wrong with a token or with its claims. -/
inductive TokenFault where
  /-- It does not decode. -/
  | decode
  /-- Its key identifier is no text. -/
  | keyId
  /-- Its key is of another kind than its algorithm needs. -/
  | keyKind
  /-- Its key cannot be used at all. -/
  | keyUnusable
  | signature
  | missingClaim
  /-- The time of issue is no whole number. -/
  | issuedAt
  /-- It is not valid yet. -/
  | immature
  | expired
  | issuer
  | audience
  /-- A time or the audience is of a type that cannot be compared. -/
  | wrongType
  /-- A time is out of range. -/
  | outOfRange
  /-- The header or the claims lie too deep in one another. -/
  | tooDeep
deriving DecidableEq, Repr

namespace TokenFault

/-- The report of the fault. -/
def report : TokenFault → Report
  | .decode => .silent .tokenDecode
  | .keyId => .silent .tokenInvalid
  | .keyKind => .silent .tokenKey
  | .keyUnusable => .silent .wrongType
  | .signature => .silent .tokenSignature
  | .missingClaim => .silent .tokenMissingClaim
  | .issuedAt => .silent .tokenIssuedAt
  | .immature => .silent .tokenImmature
  | .expired => .silent .tokenExpired
  | .issuer => .silent .tokenIssuer
  | .audience => .silent .tokenAudience
  | .wrongType => .silent .wrongType
  | .outOfRange => .silent .outOfRange
  | .tooDeep => .silent .tooDeep

/-- Whether the token is to blame: the other faults are reported as they are. -/
def isRefusal : TokenFault → Bool
  | .keyUnusable | .wrongType | .outOfRange | .tooDeep => false
  | _ => true

end TokenFault

/-- A token, taken apart. -/
structure Jws where
  header : Json.Members
  payload : List UInt8
  signature : List UInt8
  /-- What the signature is over. -/
  signed : List UInt8
deriving DecidableEq, Repr

namespace Jws

/-- The byte between two segments. -/
def dot : UInt8 := 0x2e

/-- The bytes before and after the first dot. -/
def splitFirst? : List UInt8 → Option (List UInt8 × List UInt8)
  | [] => none
  | b :: r => if b = dot then some ([], r) else (splitFirst? r).map fun p => (b :: p.1, p.2)

/-- The bytes before and after the last dot. -/
def splitLast? (s : List UInt8) : Option (List UInt8 × List UInt8) :=
  (splitFirst? s.reverse).map fun p => (p.2.reverse, p.1.reverse)

variable [Platform]

/-- The JSON object whose text the bytes are. -/
def objectOf (bytes : List UInt8) : Except TokenFault Json.Members :=
  match Json.readBody bytes with
  | .ok (.obj ms) => .ok ms
  | .error (.text .tooDeep) => .error .tooDeep
  | _ => .error .decode

/-- What there has to be. -/
def given {α : Type} : Option α → Except TokenFault α
  | some a => .ok a
  | none => .error .decode

/-- The parts of a token. -/
def parse (token : List UInt8) : Except TokenFault Jws := do
  let (signed, signature) ← given (splitLast? token)
  let (header, payload) ← given (splitFirst? signed)
  let header ← objectOf (← given (Text.Base64.decodeLenient header))
  let payload ← given (Text.Base64.decodeLenient payload)
  let signature ← given (Text.Base64.decodeLenient signature)
  return ⟨header, payload, signature, signed⟩

/-- Whether the key identifier in the header is a text, or there is none. -/
def hasFitKeyId (t : Jws) : Bool :=
  match t.header.get? "kid" with
  | some v => v.isString
  | none => true

/-- The claims of a token: its payload, which has to stand in the token itself and be an object. -/
def claims (t : Jws) : Except TokenFault Json.Members :=
  if t.header.get? "b64" = some (.bool false) then .error .decode else objectOf t.payload

/-- A token and its claims, before any signature is looked at. -/
def unverified (token : List UInt8) : Except TokenFault (Jws × Json.Members) := do
  let t ← parse token
  if !t.hasFitKeyId then throw .keyId
  return (t, ← t.claims)

end Jws

end DidRegistry
