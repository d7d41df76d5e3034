import DidRegistry.Text.Blank

/-!
# Base58

The number whose base 58 digits a text shows, as bytes, with one zero byte for every leading `1`.
White space after the digits is ignored.
-/

set_option autoImplicit false

namespace DidRegistry.Text.Base58

/-- The digits in the order of their values: no `0`, `O`, `I` and `l`. -/
def alphabet : List Char :=
  "123456789ABCDEFGHJKLMNPQRSTUVWXYZabcdefghijkmnopqrstuvwxyz".toList

/-- Why a text has no bytes. -/
inductive Error where
  /-- It has a character beyond ASCII. -/
  | notAscii
  /-- It has a character that is no digit. -/
  | notADigit
deriving DecidableEq, Repr

/-- The bytes of a number, most significant first, in front of `rest`; none for zero. -/
def bytesBefore (n : Nat) (rest : List UInt8) : List UInt8 :=
  if h : n = 0 then rest
  else bytesBefore (n / 256) (UInt8.ofNat (n % 256) :: rest)
termination_by n
decreasing_by omega

/-- The number of a digit sequence. -/
def number? (digits : List Char) : Option Nat :=
  digits.foldl (fun acc c => acc.bind fun n => (alphabet.idxOf? c).map fun d => n * 58 + d) (some 0)

/-- The bytes that a text stands for. -/
def decode (s : List Char) : Except Error (List UInt8) :=
  let s := dropEndWhile isBlank s
  if s.any fun c => 0x80 ≤ c.toNat then .error .notAscii
  else
    let zeros := (s.takeWhile (· == '1')).length
    match number? s with
    | some n => .ok (List.replicate zeros 0 ++ bytesBefore n [])
    | none => .error .notADigit

end DidRegistry.Text.Base58
