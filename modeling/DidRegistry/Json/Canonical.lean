import DidRegistry.Json.Basic
import DidRegistry.Number.Shortest
import DidRegistry.Platform
import DidRegistry.Report
import DidRegistry.Text.Utf8

/-!
# Canonical JSON

One text for each value: no white space, the members of an object in the order of the code points
of their keys, only the quote, the backslash and the control characters escaped, numbers as
shortest texts.  A value with an infinity or with no number in it has no canonical text, and neither
has one with a whole number of too many digits or with more lists and objects in one another than the
writer goes into; one with a lone half of a surrogate pair in a string or in a key has no canonical
bytes.
-/

set_option autoImplicit false

namespace DidRegistry.Json

/-- One code point inside a JSON string. -/
def escapedPoint (n : Nat) : List Char :=
  if n = '"'.toNat then ['\\', '"']
  else if n = '\\'.toNat then ['\\', '\\']
  else if n = 0x8 then ['\\', 'b']
  else if n = 0x9 then ['\\', 't']
  else if n = 0xa then ['\\', 'n']
  else if n = 0xc then ['\\', 'f']
  else if n = 0xd then ['\\', 'r']
  else if n < 0x20 ∨ (0xd800 ≤ n ∧ n < 0xe000) then
    ['\\', 'u', Text.hexDigit (n / 0x1000), Text.hexDigit (n / 0x100 % 0x10),
      Text.hexDigit (n / 0x10 % 0x10), Text.hexDigit (n % 0x10)]
  else [Char.ofNat n]

/-- A JSON string of code points. -/
def renderPoints (points : List Nat) : List Char :=
  '"' :: (points.flatMap escapedPoint ++ ['"'])

/-- A JSON string. -/
def renderString (s : Text) : List Char :=
  renderPoints s.codes

/-- Joins texts with commas. -/
def joinCommas : List (List Char) → List Char
  | [] => []
  | [x] => x
  | x :: y :: r => x ++ ',' :: joinCommas (y :: r)

/-- The members' texts in the order of the keys. -/
def sortMembers (ms : List (Text × List Char)) : List (Text × List Char) :=
  ms.mergeSort fun a b => a.1.le b.1

mutual

/-- The canonical text of a value whose numbers are finite. -/
def render : Json → List Char
  | .null => "null".toList
  | .bool b => if b then "true".toList else "false".toList
  | .int n => Text.signedDecimal n
  | .real x => x.text
  | .str s => renderString s
  | .arr items => '[' :: (joinCommas (renderItems items) ++ [']'])
  | .obj members =>
    '\x7b' :: (joinCommas ((sortMembers (renderMembers members)).map fun m =>
      renderString m.1 ++ ':' :: m.2) ++ ['\x7d'])

/-- The canonical texts of items. -/
def renderItems : List Json → List (List Char)
  | [] => []
  | x :: r => render x :: renderItems r

/-- The canonical texts of members, each with its key. -/
def renderMembers : List (Text × Json) → List (Text × List Char)
  | [] => []
  | (k, x) :: r => (k, render x) :: renderMembers r

end

mutual

/-- Whether every string and every key in a value is well formed. -/
def allWellFormed : Json → Bool
  | .str s => s.isWellFormed
  | .arr items => allWellFormedItems items
  | .obj members => allWellFormedMembers members
  | _ => true

/-- Whether every string and every key in the items is well formed. -/
def allWellFormedItems : List Json → Bool
  | [] => true
  | x :: r => allWellFormed x && allWellFormedItems r

/-- Whether every string and every key in the members is well formed. -/
def allWellFormedMembers : List (Text × Json) → Bool
  | [] => true
  | (k, x) :: r => k.isWellFormed && allWellFormed x && allWellFormedMembers r

end

/-- Why a value has no canonical form. -/
inductive CanonicalError where
  /-- It has an infinity or no number. -/
  | notFinite
  /-- It has a whole number of too many digits. -/
  | tooLong
  /-- Its lists and objects lie too deep in one another. -/
  | tooDeep
  /-- It has a string or a key that no bytes can hold. -/
  | illFormed
deriving DecidableEq, Repr

/-- The report of the error. -/
def CanonicalError.report : CanonicalError → Report
  | .notFinite => .silent .value
  | .tooLong => .silent .value
  | .tooDeep => .silent .tooDeep
  | .illFormed => .silent .unencodable

/-! ## What cannot be written -/

/-- Members in the order of their keys. -/
def inOrder (ms : Members) : Members := ms.mergeSort fun a b => a.1.le b.1

mutual

/-- A value with the members of its objects in the order of their keys. -/
def sorted : Json → Json
  | .arr items => .arr (sortedItems items)
  | .obj members => .obj (inOrder (sortedMembers members))
  | v => v

/-- Items with the members of their objects in order. -/
def sortedItems : List Json → List Json
  | [] => []
  | x :: r => sorted x :: sortedItems r

/-- Members with the members of their objects in order. -/
def sortedMembers : List (Text × Json) → List (Text × Json)
  | [] => []
  | (k, x) :: r => (k, sorted x) :: sortedMembers r

end

mutual

/-- The first thing in a value that cannot be written, with room for so many lists and objects in one
another. -/
def obstacle : (room : Nat) → Json → Option CanonicalError
  | _, .int n => if IsShort n then none else some .tooLong
  | _, .real x => if x.isFinite then none else some .notFinite
  | 0, .arr _ | 0, .obj _ => some .tooDeep
  | room + 1, .arr items => obstacleInItems room items
  | room + 1, .obj members => obstacleInMembers room members
  | _, _ => none

/-- The first thing in items that cannot be written. -/
def obstacleInItems : (room : Nat) → List Json → Option CanonicalError
  | _, [] => none
  | room, x :: r => (obstacle room x).or (obstacleInItems room r)

/-- The first thing in members that cannot be written. -/
def obstacleInMembers : (room : Nat) → List (Text × Json) → Option CanonicalError
  | _, [] => none
  | room, (_, x) :: r => (obstacle room x).or (obstacleInMembers room r)

end

variable [Platform]

/-- Why a value cannot be put into bytes as a text with its members in the order that they have. -/
def unwritable? (v : Json) : Option CanonicalError :=
  (v.obstacle Platform.writeRoom).or (if v.allWellFormed then none else some .illFormed)

/-- The canonical text of a value. -/
def canonical (v : Json) : Except CanonicalError (List Char) :=
  match v.sorted.unwritable? with
  | some e => .error e
  | none => .ok v.render

/-- The canonical bytes of a value. -/
def canonicalBytes (v : Json) : Except CanonicalError (List UInt8) :=
  v.canonical.map Text.Utf8.encode

end DidRegistry.Json
