/-!
# Tables of code points

What Unicode says of a code point is written as lists of ranges, ends included, in increasing order.
The tables are those of Unicode 14 unless they say otherwise.
-/

set_option autoImplicit false

namespace DidRegistry.Unicode

/-- Whether a code point lies in one of some ranges. -/
def within (ranges : List (Nat × Nat)) (n : Nat) : Bool :=
  ranges.any fun r => r.1 ≤ n && n ≤ r.2

/-- What is written beside the range that holds a code point. -/
def classOf? {α : Type} (table : List (Nat × Nat × α)) (n : Nat) : Option α :=
  (table.find? fun r => r.1 ≤ n && n ≤ r.2.1).map fun r => r.2.2

end DidRegistry.Unicode
