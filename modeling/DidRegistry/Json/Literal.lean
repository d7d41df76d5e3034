import DidRegistry.Json.Basic
import DidRegistry.Number.Shortest
import DidRegistry.Text.Quoted

/-!
# The literal text of a value

Messages show a value as a literal: texts between quotes, `None`, `True` and `False`, numbers as
usual, lists in square brackets and objects in braces, members in their order.  A value that comes out
of a text always has one; a value that is handed in may hold a whole number that is too long to be
shown, and lists and objects that lie too deep in one another, so that reports about such values say so
by `Report.showing` and `Report.showingWithin`.
-/

set_option autoImplicit false

namespace DidRegistry

/-- The text of a number. -/
def Number.literal : Number → List Char
  | .int n => Text.signedDecimal n
  | .flag b => if b then "True".toList else "False".toList
  | .real x => x.text

namespace Json

mutual

/-- The literal text of a value. -/
def literalChars : Json → List Char
  | .null => "None".toList
  | .bool b => (Number.flag b).literal
  | .int n => (Number.int n).literal
  | .real x => (Number.real x).literal
  | .str s => Text.quotedPoints s.codes
  | .arr items => '[' :: (literalItems items ++ [']'])
  | .obj members => '\x7b' :: (literalMembers members ++ ['\x7d'])

/-- The literal texts of items with commas between them. -/
def literalItems : List Json → List Char
  | [] => []
  | [x] => literalChars x
  | x :: y :: r => literalChars x ++ ',' :: ' ' :: literalItems (y :: r)

/-- The literal texts of members with commas between them. -/
def literalMembers : List (Text × Json) → List Char
  | [] => []
  | [(k, x)] => Text.quotedPoints k.codes ++ ':' :: ' ' :: literalChars x
  | (k, x) :: y :: r =>
    Text.quotedPoints k.codes ++ ':' :: ' ' :: literalChars x ++
      ',' :: ' ' :: literalMembers (y :: r)

end

/-- The literal text of a value. -/
def literal (v : Json) : String := String.ofList (literalChars v)

/-- The text of a value: a text as it is, anything else as a literal. -/
def text : Json → Text
  | .str s => s
  | v => v.literal

end Json

end DidRegistry
