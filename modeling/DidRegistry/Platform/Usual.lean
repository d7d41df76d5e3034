import DidRegistry.Ledger.Address

/-!
# The usual platform

The platform that is meant where a run has to have one and none is said: it takes addresses in whatever case
their letters are, and has room for far more lists and objects in one another than documents hold.
-/

set_option autoImplicit false

namespace DidRegistry

/-- Whether a text is forty hexadecimal digits, with or without `0x` in front, in any case. -/
def Address.isForty (s : List Char) : Bool :=
  (dropMark s).length == 40 && (dropMark s).all fun c => (Text.hexDigit? c).isSome

/-- The platform that is meant where none is said. -/
@[reducible]
def Platform.usual : Platform where
  readRoom := 10000
  writeRoom := 10000
  showRoom := 10000
  names := Address.isForty
  two_le_readRoom := by decide
  two_le_writeRoom := by decide
  readRoom_le := by decide

end DidRegistry
