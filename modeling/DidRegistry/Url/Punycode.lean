import DidRegistry.Text.Pieces

/-!
# Punycode

A text is written in ASCII by its ASCII characters, a hyphen, and numbers that say which other
characters stand where: each is the distance to the next insertion, counted through all places and all
code points.  The numbers have digits to the base 36 of which the last one lies below a threshold that
adapts to the size of the numbers.
-/

set_option autoImplicit false

namespace DidRegistry.Url.Punycode

/-! ## Digits and thresholds -/

/-- A digit: a letter, or from 26 on a decimal digit. -/
def digitChar (d : Nat) : Char :=
  if d < 26 then Char.ofNat (0x61 + d) else Char.ofNat (0x30 + (d - 26))

/-- The value of a digit in either case. -/
def digitValue? (c : Char) : Option Nat :=
  let n := c.toNat
  if 0x61 ≤ n && n ≤ 0x7a then some (n - 0x61)
  else if 0x41 ≤ n && n ≤ 0x5a then some (n - 0x41)
  else if 0x30 ≤ n && n ≤ 0x39 then some (n - 0x30 + 26)
  else none

/-- The threshold of the digit at an index. -/
def threshold (index bias : Nat) : Nat := max 1 (min 26 (36 * (index + 1) - bias))

theorem threshold_bounds (index bias : Nat) :
    1 ≤ threshold index bias ∧ threshold index bias ≤ 26 := by
  unfold threshold
  omega

/-- The bias that starts the numbers. -/
def firstBias : Nat := 72

/-- Divides a distance down to the size of one digit, and counts 36 for every division. -/
def damp (distance steps : Nat) : Nat × Nat :=
  if 455 < distance then damp (distance / 35) (steps + 36) else (distance, steps)
termination_by distance
decreasing_by exact Nat.div_lt_self (by omega) (by omega)

/-- The bias after a distance, when the text has grown to a length. -/
def adapt (distance length : Nat) (isFirst : Bool) : Nat :=
  let d := if isFirst then distance / 700 else distance / 2
  let (d, steps) := damp (d + d / length) 0
  steps + 36 * d / (d + 38)

/-! ## Writing -/

/-- The digits of a number from an index on. -/
def digits (bias index n : Nat) : List Char :=
  let t := threshold index bias
  if n < t then [digitChar n]
  else digitChar (t + (n - t) % (36 - t)) :: digits bias (index + 1) ((n - t) / (36 - t))
termination_by n
decreasing_by
  have h := threshold_bounds index bias
  calc (n - threshold index bias) / (36 - threshold index bias)
      ≤ n - threshold index bias := Nat.div_le_self _ _
    _ < n := by omega

/-- A text that is being written: the digits so far, the distance since the last insertion, the bias,
and the number of characters that are written. -/
structure Writing where
  out : List Char
  distance : Nat
  bias : Nat
  written : Nat

/-- Passes one character of the text while those with a code are inserted. -/
def Writing.pass (basic code : Nat) (s : Writing) (c : Nat) : Writing :=
  if c < code then { s with distance := s.distance + 1 }
  else if c = code then
    ⟨s.out ++ digits s.bias 0 s.distance, 0,
      adapt s.distance (s.written + 1) (s.written == basic), s.written + 1⟩
  else s

/-- Inserts the characters of some codes, in increasing order, from a code on. -/
def insertions (text : List Nat) (basic : Nat) : List Nat → (start : Nat) → Writing → Writing
  | [], _, s => s
  | code :: r, start, s =>
    let s := text.foldl (Writing.pass basic code)
      { s with distance := s.distance + (code - start) * (s.written + 1) }
    insertions text basic r (code + 1) { s with distance := s.distance + 1 }

/-- The ASCII form of a text of code points. -/
def encode (text : List Nat) : List Char :=
  let basic := text.filter (· < 128)
  let others := ((text.filter (128 ≤ ·)).mergeSort (· ≤ ·)).eraseReps
  let s := insertions text basic.length others 128 ⟨[], 0, firstBias, basic.length⟩
  let start := if basic.isEmpty then [] else basic.map Char.ofNat ++ ['-']
  start ++ s.out

/-! ## Reading -/

/-- A text that is being read: its characters so far, the code that was inserted last, the place behind
it, the bias, whether nothing was inserted yet, and the number being read with the weight and the index
of its next digit. -/
structure Reading where
  text : List Nat
  code : Nat
  place : Nat
  bias : Nat
  isFirst : Bool
  number : Nat
  weight : Nat
  index : Nat

/-- Inserts the character that a distance says. -/
def Reading.insert (s : Reading) (distance : Nat) : Option Reading :=
  let length := s.text.length + 1
  let code := s.code + (s.place + distance) / length
  let place := (s.place + distance) % length
  if 0x110000 ≤ code then none
  else
    some ⟨s.text.take place ++ code :: s.text.drop place, code, place + 1,
      adapt distance length s.isFirst, false, 0, 1, 0⟩

/-- Goes on with a digit. -/
def Reading.digit (s : Reading) (c : Char) : Option Reading :=
  (digitValue? c).bind fun d =>
    let t := threshold s.index s.bias
    let number := s.number + d * s.weight
    if d < t then s.insert number
    else some { s with number, weight := s.weight * (36 - t), index := s.index + 1 }

/-- The text of code points that an ASCII form stands for. -/
def decode? (cs : List Char) : Option (List Nat) :=
  let (basic, digits) := splitLast (· == '-') cs
  (digits.foldlM Reading.digit ⟨basic.map Char.toNat, 128, 0, firstBias, true, 0, 1, 0⟩).bind fun s =>
    if s.index = 0 then some s.text else none

end DidRegistry.Url.Punycode
