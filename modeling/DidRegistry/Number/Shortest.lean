import DidRegistry.Number.Binary64
import DidRegistry.Text.Digit

/-!
# The shortest text of a binary number

A binary number is written with the fewest decimal digits that read back as the same number, and
among those with the ones nearest to it; of two that are equally near, the even one.  The digits
stand in positional notation from 10^-4 up to 10^16, and in scientific notation with an exponent of
at least two digits elsewhere.  A whole number keeps one zero after the point.
-/

set_option autoImplicit false

namespace DidRegistry.Binary64

/-- The decimal exponent of the leading digit of a positive fraction, searched upwards from `k`. -/
def decimalExponentFrom (num den : Nat) : (fuel : Nat) → (k : Int) → Int
  | 0, k => k
  | fuel + 1, k =>
    if num * Nat.pow 10 (-(k + 1)).toNat < den * Nat.pow 10 (k + 1).toNat then k
    else decimalExponentFrom num den fuel (k + 1)

/-- The decimal exponent of the leading digit of a positive fraction. -/
def decimalExponent (num den : Nat) : Int :=
  let k := leadingExponent num den
  -- the exact quotient by log2 10 lies between these two, three powers of ten apart at most
  let low := k * 30103 / 100000 - 1
  decimalExponentFrom num den 4 low

/-- The digits at the decimal place `place` that read back as `x`, if there are any: the nearer of
the two neighbours on that grid. -/
def digitsAt (x : Binary64) (num den : Nat) (place : Int) : Option Nat :=
  let n := num * Nat.pow 10 (-place).toNat
  let d := den * Nat.pow 10 place.toNat
  let low := n / d
  let r := n % d
  let reads := fun m => ofDecimal false m place == x
  let lowFirst := 2 * r < d ∨ (2 * r = d ∧ low % 2 = 0)
  if lowFirst then
    if reads low then some low else if reads (low + 1) then some (low + 1) else none
  else
    if reads (low + 1) then some (low + 1) else if reads low then some low else none

/-- The shortest digits of `x` and the place of the last one, with at most `fuel` digits more than
`count`. -/
def shortestFrom (x : Binary64) (num den : Nat) (leading : Int) : (fuel count : Nat) → Nat × Int
  | 0, count => (num * Nat.pow 10 (count - leading).toNat / (den * Nat.pow 10 (leading - count).toNat),
      leading - count)
  | fuel + 1, count =>
    match digitsAt x num den (leading - count) with
    | some m => (m, leading - count)
    | none => shortestFrom x num den leading fuel (count + 1)

/-- The shortest digits of the positive number `m * 2 ^ e` and the decimal place of the last. -/
def shortestDigits (m : Nat) (e : Int) : Nat × Int :=
  let num := m * Nat.pow 2 e.toNat
  let den := Nat.pow 2 (-e).toNat
  shortestFrom (.finite false m e) num den (decimalExponent num den) 17 0

/-- Drops the zeros at the end of a digit sequence. -/
def dropZeros (ds : List Char) : List Char :=
  (ds.reverse.dropWhile (· == '0')).reverse

/-- The text of digits whose decimal point stands after the first `point` of them. -/
def layout (ds : List Char) (point : Int) : List Char :=
  if -4 < point ∧ point ≤ 16 then
    if point ≤ 0 then '0' :: '.' :: (List.replicate (-point).toNat '0' ++ ds)
    else
      let p := point.toNat
      if ds.length ≤ p then ds ++ List.replicate (p - ds.length) '0' ++ ['.', '0']
      else ds.take p ++ '.' :: ds.drop p
  else
    let e := point - 1
    let exponent := Text.decimal e.natAbs
    let mark := if e < 0 then '-' else '+'
    let padded := if exponent.length < 2 then '0' :: exponent else exponent
    let mantissa := match ds with
      | d :: [] => [d]
      | d :: r => d :: '.' :: r
      | [] => []
    mantissa ++ 'e' :: mark :: padded

/-- The text of a binary number. -/
def text : Binary64 → List Char
  | .nan => "nan".toList
  | .infinity s => if s then "-inf".toList else "inf".toList
  | .finite s m e =>
    let unsigned :=
      if m = 0 then "0.0".toList
      else
        let (digits, place) := shortestDigits m e
        let ds := Text.decimal digits
        layout (dropZeros ds) (place + ds.length)
    if s then '-' :: unsigned else unsigned

end DidRegistry.Binary64
