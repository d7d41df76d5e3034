import DidRegistry.Number.Binary64

/-!
# Numbers as they are given

Settings and replies give numbers as whole numbers of any size, as binary numbers, or as truth
values, which count as 0 and 1.  Comparison is exact across the three; arithmetic is exact on whole
numbers and rounds as soon as a binary number takes part.
-/

set_option autoImplicit false

namespace DidRegistry

/-- A number as it is given. -/
inductive Number where
  | int (n : Int)
  | flag (b : Bool)
  | real (x : Binary64)
deriving DecidableEq, Repr, Inhabited

namespace Number

/-- The whole number that a truth value counts as. -/
def ofFlag (b : Bool) : Int := if b then 1 else 0

/-- The whole number, unless it is a binary number. -/
def whole? : Number → Option Int
  | .int n => some n
  | .flag b => some (ofFlag b)
  | .real _ => none

/-- A number on the scale on which all numbers compare. -/
inductive Magnitude where
  | below
  | fraction (num : Int) (den : Nat)
  | above
  | unordered

/-- Where a number stands on that scale. -/
def magnitude : Number → Magnitude
  | .int n => .fraction n 1
  | .flag b => .fraction (ofFlag b) 1
  | .real .nan => .unordered
  | .real (.infinity s) => if s then .below else .above
  | .real (.finite s m e) => let (n, d) := Binary64.ratio s m e; .fraction n d

/-- The order of two numbers; none when one is no number. -/
def compare? (a b : Number) : Option Ordering :=
  match a.magnitude, b.magnitude with
  | .unordered, _ | _, .unordered => none
  | .fraction n d, .fraction m e => some (compare (n * e) (m * d))
  | .below, .below | .above, .above => some .eq
  | .below, _ | _, .above => some .lt
  | .above, _ | _, .below => some .gt

/-- Whether `a` is less than `b`. -/
def lt (a b : Number) : Bool := a.compare? b == some .lt

/-- Whether `a` is at most `b`. -/
def le (a b : Number) : Bool := a.compare? b == some .lt || a.compare? b == some .eq

/-- Whether two numbers are equal in value. -/
def equals (a b : Number) : Bool := a.compare? b == some .eq

/-- The binary number nearest to a number; none when a whole number is out of range. -/
def toReal? : Number → Option Binary64
  | .real x => some x
  | a =>
    match Binary64.ofInt (a.whole?.getD 0) with
    | .infinity _ => none
    | x => some x

/-- Combines two numbers, exactly when both are whole. -/
def combine (whole : Int → Int → Int) (binary : Binary64 → Binary64 → Binary64) (a b : Number) :
    Option Number :=
  match a.whole?, b.whole? with
  | some m, some n => some (.int (whole m n))
  | _, _ => do return .real (binary (← a.toReal?) (← b.toReal?))

/-- The sum; none when a whole number is out of the range of binary numbers. -/
def add? (a b : Number) : Option Number :=
  combine (· + ·) Binary64.add a b

/-- The difference; none when a whole number is out of the range of binary numbers. -/
def sub? (a b : Number) : Option Number :=
  combine (· - ·) (fun x y => x.add y.neg) a b

/-- The product; none when a whole number is out of the range of binary numbers. -/
def mul? (a b : Number) : Option Number :=
  combine (· * ·) Binary64.mul a b

end Number

end DidRegistry
