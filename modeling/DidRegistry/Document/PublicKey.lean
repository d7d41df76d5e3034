import DidRegistry.Crypto.Sha2
import DidRegistry.Crypto.Weierstrass
import DidRegistry.Json.Literal
import DidRegistry.Text.Base58
import DidRegistry.Text.Base64

/-!
# Public keys

A key is given as a JSON Web Key or in base58.  As a JWK it is an RSA key with modulus and exponent,
a point of one of three curves, or an Ed25519 key; in base58 it is an Ed25519 key or a point of P-256
with one or both coordinates.
-/

set_option autoImplicit false

namespace DidRegistry

/-- A key that signatures are checked under. -/
inductive PublicKey where
  | rsa (modulus exponent : Nat)
  /-- A point of a curve. -/
  | ec (curve : Curve) (x y : Nat)
  /-- The 32 bytes of an Ed25519 key. -/
  | ed25519 (bytes : List UInt8)
deriving DecidableEq, Repr

namespace PublicKey

/-- Why there is no key. -/
inductive Error where
  /-- The JWK is no object. -/
  | notAnObject (value : Json)
  /-- A member of the JWK is not there or no text. -/
  | noMember (name : String)
  | base64 (error : Text.Base64.Error)
  | curve (name : Json)
  | jwk (keyType curve : Json)
  /-- The numbers or bytes are no key of the type. -/
  | unfit
  /-- There is no base58 text. -/
  | noText
  | base58 (error : Text.Base58.Error)
  /-- The type of the key is no text. -/
  | typeNotText
  | keyType (type : Text)
  /-- A verification method has no key in it. -/
  | noMaterial (id : String)
deriving DecidableEq, Repr

/-- The report of the error. -/
def Error.report : Error → Report
  | .notAnObject v => .plain .value (say ("JWK must be an object, got: " ++ v.kindName))
  | .noMember name =>
    .plain .value (say ("JWK member " ++ Text.quoted name ++ " is missing or not a string"))
  | .base64 e => e.report
  | .curve v => (Report.plain .value (say ("unsupported EC curve: " ++ v.literal))).showing [v]
  | .jwk kty crv =>
    (Report.plain .value
      (say ("unsupported JWK: kty=" ++ kty.literal ++ " crv=" ++ crv.literal))).showing [kty, crv]
  | .unfit => .silent .value
  | .noText => .plain .value (say "publicKeyBase58 is missing or not a string")
  | .base58 .notAscii => .silent .unencodable
  | .base58 .notADigit => .silent .value
  | .typeNotText => .silent .noSuchOperation
  | .keyType t =>
    .plain .value (say ("unsupported key type for publicKeyBase58: " ++ Text.quoted t))
  | .noMaterial id =>
    .plain .value (say ("verification method " ++ id ++ " carries no key material"))

/-- Whether the error concerns what a value is, and not a call on a value of the wrong type. -/
def Error.isAboutValue : Error → Bool
  | .typeNotText => false
  | _ => true

/-- The bytes in a member of a JWK. -/
def memberBytes (jwk : Json) (name : String) : Except Error (List UInt8) :=
  let v := (jwk.get? name).getD .null
  if v.isString && v.isPresent then (Text.Base64.decode v.text.chars).mapError .base64
  else .error (.noMember name)

/-- The number in a member of a JWK. -/
def memberNumber (jwk : Json) (name : String) : Except Error Nat :=
  (memberBytes jwk name).map Sha2.bigEndian

/-- The RSA key with a modulus and an exponent, if they can be one. -/
def ofRsa (modulus exponent : Nat) : Except Error PublicKey :=
  if 3 ≤ modulus ∧ 3 ≤ exponent ∧ exponent < modulus ∧ exponent % 2 = 1 then
    .ok (.rsa modulus exponent)
  else .error .unfit

/-- The point with two coordinates, taken modulo the prime of the curve, if it is on the curve. -/
def ofPoint (curve : Curve) (x y : Nat) : Except Error PublicKey :=
  let x := x % curve.p
  let y := y % curve.p
  if curve.contains x y then .ok (.ec curve x y) else .error .unfit

/-- The Ed25519 key of a byte sequence. -/
def ofEd25519 (bytes : List UInt8) : Except Error PublicKey :=
  if bytes.length = 32 then .ok (.ed25519 bytes) else .error .unfit

/-- The key of a JWK of the type `EC`. -/
def ofJwkPoint (jwk : Json) : Except Error PublicKey := do
  let name := (jwk.get? "crv").getD .null
  let curve? := match name with
    | .str t => Curve.ofJwkName? t.shown
    | _ => none
  match curve? with
  | none => throw (.curve name)
  | some curve =>
    let x ← memberNumber jwk "x"
    let y ← memberNumber jwk "y"
    ofPoint curve x y

/-- The key of a JWK. -/
def ofJwk (jwk : Json) : Except Error PublicKey :=
  match jwk with
  | .obj _ =>
    let keyType := (jwk.get? "kty").getD .null
    let curve := (jwk.get? "crv").getD .null
    if keyType = .str "RSA" then do
      let exponent ← memberNumber jwk "e"
      let modulus ← memberNumber jwk "n"
      ofRsa modulus exponent
    else if keyType = .str "EC" then ofJwkPoint jwk
    else if keyType = .str "OKP" ∧ curve = .str "Ed25519" then
      (memberBytes jwk "x").bind ofEd25519
    else .error (.jwk keyType curve)
  | v => .error (.notAnObject v)

/-- The point of a curve whose encoding is a byte sequence: a mark and one or two coordinates. -/
def ofEncodedPoint (curve : Curve) (bytes : List UInt8) : Except Error PublicKey :=
  match bytes with
  | mark :: r =>
    let x := Sha2.bigEndian (r.take curve.size)
    let y := Sha2.bigEndian (r.drop curve.size)
    if mark = 0x04 ∧ r.length = 2 * curve.size ∧ x < curve.p ∧ y < curve.p then ofPoint curve x y
    else if (mark = 0x02 ∨ mark = 0x03) ∧ r.length = curve.size ∧ x < curve.p then
      match curve.decompress? x (mark = 0x03) with
      | some y => .ok (.ec curve x y)
      | none => .error .unfit
    else .error .unfit
  | [] => .error .unfit

/-- The key of a type whose bytes are given. -/
def ofTypedBytes (type : Text) (bytes : List UInt8) : Except Error PublicKey :=
  if type.shown.startsWith "Ed25519" then ofEd25519 bytes
  else if type = Text.ofString "ECDSAsecp256r1" ∨
      type = Text.ofString "EcdsaSecp256r1VerificationKey2019" then
    ofEncodedPoint Curve.p256 bytes
  else .error (.keyType type)

/-- The key of a type in base58. -/
def ofBase58 (type value : Json) : Except Error PublicKey :=
  if !value.isString || !value.isPresent then .error .noText
  else
    match Text.Base58.decode value.text.chars with
    | .error e => .error (.base58 e)
    | .ok bytes => if type.isString then ofTypedBytes type.text bytes else .error .typeNotText

end PublicKey

end DidRegistry
