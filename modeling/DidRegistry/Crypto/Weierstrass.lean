import DidRegistry.Crypto.Modular

/-!
# Curves in short Weierstrass form, and ECDSA

The curves P-256, P-384 and P-521: the points with `y^2 = x^3 - 3 x + b` over a prime field, and the
check of a signature `(r, s)` over a hash.
-/

set_option autoImplicit false

namespace DidRegistry

/-- A curve `y^2 = x^3 - 3 x + b` modulo `p` with a point `(gx, gy)` of prime order `n`. -/
structure Curve where
  /-- The name in a JWK. -/
  jwkName : String
  /-- The name in the standards for efficient cryptography. -/
  secName : String
  p : Nat
  b : Nat
  n : Nat
  gx : Nat
  gy : Nat
  /-- The number of bytes of a coordinate. -/
  size : Nat
deriving DecidableEq, Repr

namespace Curve

/-- The curve P-256. -/
def p256 : Curve where
  jwkName := "P-256"
  secName := "secp256r1"
  p := 0xffffffff00000001000000000000000000000000ffffffffffffffffffffffff
  b := 0x5ac635d8aa3a93e7b3ebbd55769886bc651d06b0cc53b0f63bce3c3e27d2604b
  n := 0xffffffff00000000ffffffffffffffffbce6faada7179e84f3b9cac2fc632551
  gx := 0x6b17d1f2e12c4247f8bce6e563a440f277037d812deb33a0f4a13945d898c296
  gy := 0x4fe342e2fe1a7f9b8ee7eb4a7c0f9e162bce33576b315ececbb6406837bf51f5
  size := 32

/-- The curve P-384. -/
def p384 : Curve where
  jwkName := "P-384"
  secName := "secp384r1"
  p := 0xfffffffffffffffffffffffffffffffffffffffffffffffffffffffffffffffeffffffff0000000000000000ffffffff
  b := 0xb3312fa7e23ee7e4988e056be3f82d19181d9c6efe8141120314088f5013875ac656398d8a2ed19d2a85c8edd3ec2aef
  n := 0xffffffffffffffffffffffffffffffffffffffffffffffffc7634d81f4372ddf581a0db248b0a77aecec196accc52973
  gx := 0xaa87ca22be8b05378eb1c71ef320ad746e1d3b628ba79b9859f741e082542a385502f25dbf55296c3a545e3872760ab7
  gy := 0x3617de4a96262c6f5d9e98bf9292dc29f8f41dbd289a147ce9da3113b5f0b8c00a60b1ce1d7e819d7a431d7c90ea0e5f
  size := 48

/-- 2 to the power of 256, which the numbers of the longest curve are written in two parts with. -/
def twoTo256 : Nat := 0x10000000000000000000000000000000000000000000000000000000000000000

/-- The curve P-521. -/
def p521 : Curve where
  jwkName := "P-521"
  secName := "secp521r1"
  p := 0x1ffffffffffffffffffffffffffffffffffffffffffffffffffffffffffffffffff * twoTo256 +
    0xffffffffffffffffffffffffffffffffffffffffffffffffffffffffffffffff
  b := 0x51953eb9618e1c9a1f929a21a0b68540eea2da725b99b315f3b8b489918ef109e1 * twoTo256 +
    0x56193951ec7e937b1652c0bd3bb1bf073573df883d2c34f1ef451fd46b503f00
  n := 0x1fffffffffffffffffffffffffffffffffffffffffffffffffffffffffffffffffa * twoTo256 +
    0x51868783bf2f966b7fcc0148f709a5d03bb5c9b8899c47aebb6fb71e91386409
  gx := 0xc6858e06b70404e9cd9e3ecb662395b4429c648139053fb521f828af606b4d3dba * twoTo256 +
    0xa14b5e77efe75928fe1dc127a2ffa8de3348b3c1856a429bf97e7e31c2e5bd66
  gy := 0x11839296a789a3bc0045c8a5fb42c7d1bd998f54449579b446817afbd17273e662c * twoTo256 +
    0x97ee72995ef42640c550b9013fad0761353c7086a272c24088be94769fd16650
  size := 66

/-- The curves that keys may be on. -/
def all : List Curve := [p256, p384, p521]

/-- The curve with a name in a JWK. -/
def ofJwkName? (name : String) : Option Curve :=
  all.find? fun c => c.jwkName == name

/-- The right-hand side of the equation. -/
def rightSide (c : Curve) (x : Nat) : Nat :=
  Modular.sub c.p ((x * x % c.p * x + c.b) % c.p) (3 * x % c.p)

/-- Whether `(x, y)` is on the curve. -/
def contains (c : Curve) (x y : Nat) : Bool :=
  y * y % c.p == c.rightSide x

/-- A point in Jacobian coordinates: `(x / z^2, y / z^3)`, or infinity when `z` is zero. -/
structure Point where
  x : Nat
  y : Nat
  z : Nat
deriving DecidableEq, Repr

/-- The point at infinity. -/
def infinity : Point := ⟨1, 1, 0⟩

/-- Twice a point. -/
def double (c : Curve) (q : Point) : Point :=
  if q.z = 0 ∨ q.y = 0 then infinity
  else
    let p := c.p
    let yy := q.y * q.y % p
    let zz := q.z * q.z % p
    let s := 4 * q.x * yy % p
    let m := 3 * (Modular.sub p q.x zz) * (q.x + zz) % p
    let x := Modular.sub p (m * m % p) (2 * s % p)
    ⟨x, Modular.sub p (m * Modular.sub p s x % p) (8 * yy * yy % p), 2 * q.y * q.z % p⟩

/-- The sum of two points. -/
def add (c : Curve) (q r : Point) : Point :=
  if q.z = 0 then r
  else if r.z = 0 then q
  else
    let p := c.p
    let z1 := q.z * q.z % p
    let z2 := r.z * r.z % p
    let u1 := q.x * z2 % p
    let u2 := r.x * z1 % p
    let s1 := q.y * z2 % p * r.z % p
    let s2 := r.y * z1 % p * q.z % p
    if u1 = u2 then
      if s1 = s2 then c.double q else infinity
    else
      let h := Modular.sub p u2 u1
      let t := Modular.sub p s2 s1
      let hh := h * h % p
      let hhh := hh * h % p
      let v := u1 * hh % p
      let x := Modular.sub p (Modular.sub p (t * t % p) hhh) (2 * v % p)
      ⟨x, Modular.sub p (t * Modular.sub p v x % p) (s1 * hhh % p), h * q.z % p * r.z % p⟩

/-- `acc` plus the multiple of a point by the lowest `bits` bits of a number. -/
def mulFrom (c : Curve) : (bits : Nat) → (k : Nat) → (acc q : Point) → Point
  | 0, _, acc, _ => acc
  | bits + 1, k, acc, q =>
    mulFrom c bits (k / 2) (if k % 2 = 1 then c.add acc q else acc) (c.double q)

/-- A multiple of a point. -/
def mul (c : Curve) (k : Nat) (q : Point) : Point :=
  c.mulFrom (Nat.log2 k + 1) k infinity q

/-- The first coordinate of a point that is not infinity. -/
def affineX (c : Curve) (q : Point) : Nat :=
  let i := Modular.inverse c.p q.z
  q.x * (i * i % c.p) % c.p

/-- The `y` of the point with a given `x` and parity, if there is one. -/
def decompress? (c : Curve) (x : Nat) (isOdd : Bool) : Option Nat :=
  (Modular.sqrt34? c.p (c.rightSide x)).bind fun y =>
    if (y % 2 == 1) == isOdd then some y
    else if y = 0 then none
    else some (c.p - y)

/-- Whether `(r, s)` is a signature under the key `(x, y)` over a hash. -/
def verifies (c : Curve) (x y : Nat) (hash : List UInt8) (r s : Nat) : Bool :=
  if r = 0 ∨ c.n ≤ r ∨ s = 0 ∨ c.n ≤ s then false
  else
    let bits := Nat.log2 c.n + 1
    let e := hash.foldl (fun n b => n * 256 + b.toNat) 0
    -- of a hash longer than the order the leading bits count
    let e := e / Nat.pow 2 (8 * hash.length - bits)
    let w := Modular.inverse c.n s
    let point := c.add (c.mul (e * w % c.n) ⟨c.gx, c.gy, 1⟩) (c.mul (r * w % c.n) ⟨x, y, 1⟩)
    point.z != 0 && c.affineX point % c.n == r

end Curve

end DidRegistry
