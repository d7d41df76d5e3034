/-!
# Arithmetic modulo a prime

Powers by repeated squaring, inverses by Fermat, and square roots modulo the primes at hand.
-/

set_option autoImplicit false

namespace DidRegistry.Modular

/-- `acc * base ^ e` modulo `m`, in `fuel` squarings. -/
def powFrom (m : Nat) : (fuel : Nat) → (acc base e : Nat) → Nat
  | 0, acc, _, _ => acc
  | fuel + 1, acc, base, e =>
    if e = 0 then acc
    else powFrom m fuel (if e % 2 = 1 then acc * base % m else acc) (base * base % m) (e / 2)

/-- `base ^ e` modulo `m`. -/
def pow (m base e : Nat) : Nat :=
  powFrom m (Nat.log2 e + 1) (1 % m) (base % m) e

/-- The inverse of a number that the prime `p` does not divide. -/
def inverse (p a : Nat) : Nat := pow p a (p - 2)

/-- The difference modulo `m` of two numbers below `m`. -/
def sub (m a b : Nat) : Nat := (a + (m - b % m)) % m

/-- A square root modulo a prime that is 3 modulo 4, if there is one. -/
def sqrt34? (p a : Nat) : Option Nat :=
  let r := pow p a ((p + 1) / 4)
  if r * r % p = a % p then some r else none

end DidRegistry.Modular
