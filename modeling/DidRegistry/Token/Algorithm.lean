import DidRegistry.Crypto.Edwards
import DidRegistry.Crypto.Rsa
import DidRegistry.Document.PublicKey
import DidRegistry.Token.Jws

/-!
# Signature algorithms

Tokens are signed with ECDSA and a hash of the SHA-2 family, with RSA, or with Ed25519.  An ECDSA
signature is two numbers of the size of the curve of the key, whatever the algorithm says.
-/

set_option autoImplicit false

namespace DidRegistry

/-- An algorithm that tokens may be signed with. -/
inductive Algorithm where
  | es256
  | es384
  | es512
  | rs256
  | edDsa
deriving DecidableEq, Repr

namespace Algorithm

/-- All algorithms. -/
def all : List Algorithm := [.es256, .es384, .es512, .rs256, .edDsa]

/-- The name of an algorithm. -/
def name : Algorithm → String
  | .es256 => "ES256"
  | .es384 => "ES384"
  | .es512 => "ES512"
  | .rs256 => "RS256"
  | .edDsa => "EdDSA"

/-- Checks an ECDSA signature over a hash. -/
def checkEcdsa (key : PublicKey) (hash signature : List UInt8) : Except TokenFault Unit :=
  match key with
  | .ec curve x y =>
    let r := Sha2.bigEndian (signature.take curve.size)
    let s := Sha2.bigEndian (signature.drop curve.size)
    if signature.length = 2 * curve.size ∧ curve.verifies x y hash r s then .ok ()
    else .error .signature
  | _ => .error .keyUnusable

/-- Checks a signature over a message under a key. -/
def check (a : Algorithm) (key : PublicKey) (message signature : List UInt8) :
    Except TokenFault Unit :=
  match a with
  | .es256 => checkEcdsa key (Sha2.sha256 message) signature
  | .es384 => checkEcdsa key (Sha2.sha384 message) signature
  | .es512 => checkEcdsa key (Sha2.sha512 message) signature
  | .rs256 =>
    match key with
    | .rsa modulus exponent =>
      if Rsa.verifies modulus exponent message signature then .ok () else .error .signature
    | _ => .error .keyUnusable
  | .edDsa =>
    match key with
    | .ed25519 bytes =>
      if Ed25519.verifies bytes message signature then .ok () else .error .signature
    | _ => .error .keyKind

end Algorithm

end DidRegistry
