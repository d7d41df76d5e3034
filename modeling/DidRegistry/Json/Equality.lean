import DidRegistry.Json.Basic

/-!
# Values that count as equal

Claims and identifiers are compared by value: a truth value equals 0 or 1, a whole number equals the
binary number of the same value, and two objects are equal when they have the same keys with equal
values, in whatever order.  No value without a number (NaN) equals anything.
-/

set_option autoImplicit false

namespace DidRegistry.Json

mutual

/-- Whether two values count as equal. -/
def equals : Json → Json → Bool
  | .null, .null => true
  | .str s, .str t => s == t
  | .arr xs, .arr ys => equalItems xs ys
  | .obj xs, .obj ys => xs.length == ys.length && equalMembers xs ys
  | a, b =>
    match a.number?, b.number? with
    | some m, some n => m.equals n
    | _, _ => false

/-- Whether two lists have equal items. -/
def equalItems : List Json → List Json → Bool
  | [], [] => true
  | x :: xs, y :: ys => equals x y && equalItems xs ys
  | _, _ => false

/-- Whether every member has an equal one among the others. -/
def equalMembers : List (Text × Json) → List (Text × Json) → Bool
  | [], _ => true
  | (k, x) :: xs, ys =>
    (match ys.lookup k with
      | some y => equals x y
      | none => false) && equalMembers xs ys

end

end DidRegistry.Json
