import DidRegistry.Text.Hex
import DidRegistry.Text.Utf8

/-!
# Escapes

A character that has no place in a part of an address is written as the bytes of its UTF-8 encoding, a
percent sign and two digits each.  Percent signs are left alone, so that what was escaped before stays as
it is.
-/

set_option autoImplicit false

namespace DidRegistry.Url

/-- The characters that a query escapes. -/
def escapedInQuery : List Char := [' ', '"', '#', '<', '>']

/-- The characters that a fragment escapes. -/
def escapedInFragment : List Char := [' ', '"', '<', '>', '\x60']

/-- The characters that a path escapes. -/
def escapedInPath : List Char := escapedInQuery ++ ['?', '\x60', '\x7b', '\x7d']

/-- The characters that the name of a user escapes. -/
def escapedInUser : List Char :=
  escapedInPath ++ ['/', ';', '=', '@', '[', '\\', ']', '^', '|']

/-- The characters that a host escapes. -/
def escapedInHost : List Char :=
  [' ', '#', '/', ':', '<', '>', '?', '@', '[', ']', '^']

/-- Whether a character stands for itself. -/
def isPlain (escaped : List Char) (c : Char) : Bool :=
  0x20 ≤ c.toNat && c.toNat < 0x7f && !escaped.contains c

/-- A character, or its bytes. -/
def escapeChar (escaped : List Char) (c : Char) : List Char :=
  if isPlain escaped c then [c]
  else (Text.Utf8.encode [c]).flatMap fun b => '%' :: (Text.Hex.encodeByte b).map Char.toUpper

/-- A part of an address with escapes; there is none for half a surrogate pair. -/
def escape? (escaped : List Char) (ps : List Point) : Option (List Char) :=
  (ps.mapM Point.char?).map fun cs => cs.flatMap (escapeChar escaped)

/-- A character that stands for itself is left. -/
theorem escapeChar_of_isPlain {escaped : List Char} {c : Char} (h : isPlain escaped c = true) :
    escapeChar escaped c = [c] := by
  simp [escapeChar, h]

end DidRegistry.Url
