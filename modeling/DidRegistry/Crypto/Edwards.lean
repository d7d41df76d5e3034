import DidRegistry.Crypto.Modular
import DidRegistry.Crypto.Sha2

/-!
# Ed25519

The twisted Edwards curve `-x^2 + y^2 = 1 + d x^2 y^2` modulo `2^255 - 19`, and the check of a
signature: the encoding of `s B - h A` must be the first half of the signature, byte by byte.
-/

set_option autoImplicit false

namespace DidRegistry.Ed25519

/-- The prime of the field. -/
def p : Nat := Nat.pow 2 255 - 19

/-- The order of the base point. -/
def order : Nat := Nat.pow 2 252 + 27742317777372353535851937790883648493

/-- The constant of the curve, `-121665 / 121666`. -/
def d : Nat := 37095705934669439343138083508754565189542113879843219016388785533085940283555

/-- A square root of minus one. -/
def rootOfMinusOne : Nat :=
  19681161376707505956807079304988542015446066515923890162744021073123829784752

/-- A point in extended coordinates: `(x / z, y / z)` with `t = x y / z`. -/
structure Point where
  x : Nat
  y : Nat
  z : Nat
  t : Nat
deriving DecidableEq, Repr

/-- The neutral point. -/
def neutral : Point := ⟨0, 1, 1, 0⟩

/-- The base point. -/
def base : Point :=
  let x := 15112221349535400772501151409588531511454012693041857206046113283949847762202
  let y := 46316835694926478169428394003475163141307993866256225615783033603165251855960
  ⟨x, y, 1, x * y % p⟩

/-- The sum of two points. -/
def add (q r : Point) : Point :=
  let a := Modular.sub p q.y q.x * Modular.sub p r.y r.x % p
  let b := (q.y + q.x) * (r.y + r.x) % p
  let c := 2 * q.t * r.t % p * d % p
  let e := 2 * q.z * r.z % p
  let f := Modular.sub p b a
  let g := Modular.sub p e c
  let h := (e + c) % p
  let i := (b + a) % p
  ⟨f * g % p, h * i % p, g * h % p, f * i % p⟩

/-- `acc` plus the multiple of a point by the lowest `bits` bits of a number. -/
def mulFrom : (bits : Nat) → (k : Nat) → (acc q : Point) → Point
  | 0, _, acc, _ => acc
  | bits + 1, k, acc, q => mulFrom bits (k / 2) (if k % 2 = 1 then add acc q else acc) (add q q)

/-- A multiple of a point. -/
def mul (k : Nat) (q : Point) : Point := mulFrom (Nat.log2 k + 1) k neutral q

/-- The point with the other sign. -/
def neg (q : Point) : Point := ⟨Modular.sub p 0 q.x, q.y, q.z, Modular.sub p 0 q.t⟩

/-- The number that bytes stand for, least significant first. -/
def littleEndian (bytes : List UInt8) : Nat :=
  bytes.foldr (fun b n => n * 256 + b.toNat) 0

/-- The 32 bytes of a number, least significant first. -/
def toBytes (n : Nat) : List UInt8 := (Sha2.toBytes 32 n).reverse

/-- The encoding of a point: `y`, and the parity of `x` in the highest bit. -/
def encode (q : Point) : List UInt8 :=
  let i := Modular.inverse p q.z
  let x := q.x * i % p
  let y := q.y * i % p
  toBytes (y + x % 2 * Nat.pow 2 255)

/-- The point that 32 bytes are the encoding of, if they are one. -/
def decode? (bytes : List UInt8) : Option Point :=
  let n := littleEndian bytes
  let y := n % Nat.pow 2 255 % p
  let sign := n / Nat.pow 2 255
  let u := Modular.sub p (y * y % p) 1
  let v := (d * (y * y % p) + 1) % p
  let w := u * Modular.inverse p v % p
  let r := Modular.pow p w ((p + 3) / 8)
  let root :=
    if r * r % p = w then some r
    else
      let r := r * rootOfMinusOne % p
      if r * r % p = w then some r else none
  root.map fun x =>
    let x := if x % 2 = sign then x else Modular.sub p 0 x
    ⟨x, y, 1, x * y % p⟩

/-- Whether 64 bytes are a signature of a message under the 32 bytes of a key. -/
def verifies (key message signature : List UInt8) : Bool :=
  if signature.length != 64 then false
  else
    let r := signature.take 32
    let s := littleEndian (signature.drop 32)
    if order ≤ s then false
    else match decode? key with
      | none => false
      | some a =>
        let h := littleEndian (Sha2.sha512 (r ++ key ++ message)) % order
        encode (add (mul s base) (neg (mul h a))) == r

end DidRegistry.Ed25519
