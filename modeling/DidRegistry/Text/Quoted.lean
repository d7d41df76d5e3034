import DidRegistry.Text.Basic
import DidRegistry.Text.Digit
import DidRegistry.Text.Printable

/-!
# Quoted text

Messages show a text between quotes: single ones, or double ones when the text holds a single
quote and no double one.  The quote in use and the backslash are escaped by a backslash, line
feed, carriage return and tabulator are written `\n`, `\r` and `\t`, every other character that is
not printable by the two, four or eight hexadecimal digits of its code point.

A lone half of a surrogate pair is not printable, so that what is shown is made of characters.
-/

set_option autoImplicit false

namespace DidRegistry.Text

/-- Exactly `width` hexadecimal digits of `n`. -/
def hexPadded : (width : Nat) → (n : Nat) → List Char
  | 0, _ => []
  | w + 1, n => hexPadded w (n / 16) ++ [hexDigit (n % 16)]

/-- One code point between the quotes `quote`. -/
def quotedPoint (quote : Char) (n : Nat) : List Char :=
  if n = quote.toNat ∨ n = '\\'.toNat then ['\\', Char.ofNat n]
  else if n = '\n'.toNat then ['\\', 'n']
  else if n = '\r'.toNat then ['\\', 'r']
  else if n = '\t'.toNat then ['\\', 't']
  else if isPrintable n then [Char.ofNat n]
  else if n < 0x100 then '\\' :: 'x' :: hexPadded 2 n
  else if n < 0x10000 then '\\' :: 'u' :: hexPadded 4 n
  else '\\' :: 'U' :: hexPadded 8 n

/-- The quote that a text is put between. -/
def quoteFor (points : List Nat) : Char :=
  if points.contains '\''.toNat && !points.contains '"'.toNat then '"' else '\''

/-- A sequence of code points between quotes. -/
def quotedPoints (points : List Nat) : List Char :=
  let q := quoteFor points
  q :: (points.flatMap (quotedPoint q) ++ [q])

/-- A text between quotes. -/
def quoted (t : Text) : String :=
  String.ofList (quotedPoints t.codes)

end DidRegistry.Text
