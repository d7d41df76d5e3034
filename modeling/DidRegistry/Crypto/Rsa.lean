import DidRegistry.Crypto.Modular
import DidRegistry.Crypto.Sha2

/-!
# RSA signatures

The check of a signature over a SHA-256 hash with the padding of PKCS #1 version 1.5.
-/

set_option autoImplicit false

namespace DidRegistry.Rsa

/-- The description of a SHA-256 hash in front of the hash. -/
def sha256Mark : List UInt8 := [
  0x30, 0x31, 0x30, 0x0d, 0x06, 0x09, 0x60, 0x86, 0x48, 0x01, 0x65, 0x03, 0x04, 0x02, 0x01, 0x05,
  0x00, 0x04, 0x20]

/-- The number of bytes of a modulus. -/
def size (n : Nat) : Nat := (Nat.log2 n + 8) / 8

/-- Whether a byte sequence is a signature of a message under the key `(n, e)`. -/
def verifies (n e : Nat) (message signature : List UInt8) : Bool :=
  let k := size n
  let content := sha256Mark ++ Sha2.sha256 message
  let s := Sha2.bigEndian signature
  if signature.length != k || n ≤ s || k < content.length + 11 then false
  else
    let expected := 0x00 :: 0x01 ::
      (List.replicate (k - content.length - 3) 0xff ++ 0x00 :: content)
    Sha2.toBytes k (Modular.pow n s e) == expected

end DidRegistry.Rsa
