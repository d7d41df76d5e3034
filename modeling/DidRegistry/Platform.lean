/-!
# The platform

What the program leaves to what it runs on: how far JSON is read, written and shown into lists and
objects that lie in one another, and which texts the library of the ledger takes for addresses of
accounts.
Nothing in the program says what these are, so every definition that depends on them takes a
platform, and what is proved holds whatever the platform is.
-/

set_option autoImplicit false

namespace DidRegistry

/-- What the program leaves to what it runs on. -/
class Platform where
  /-- How many lists and objects in one another can be read. -/
  readRoom : Nat
  /-- How many lists and objects in one another can be written. -/
  writeRoom : Nat
  /-- How many lists and objects in one another can be shown in a message. -/
  showRoom : Nat
  /-- Whether a text is taken for the address of an account. -/
  names : List Char → Bool
  /-- Two is what the parts of an operation take. -/
  two_le_readRoom : 2 ≤ readRoom
  two_le_writeRoom : 2 ≤ writeRoom
  /-- What a value holds can be shown when the value can be read. -/
  readRoom_le : readRoom ≤ showRoom + 1

end DidRegistry
