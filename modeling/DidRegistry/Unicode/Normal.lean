import DidRegistry.Unicode.CombiningClass
import DidRegistry.Unicode.Composite

/-!
# Normalization form C

A text is taken apart into the characters that its composites are equivalent to, the marks between
two starters are sorted by their combining class, and pairs are composed again.  A text is in form C
when that gives it back and it holds no character that the form never writes.
-/

set_option autoImplicit false

namespace DidRegistry.Unicode

/-! ## Taking apart -/

/-- The syllables of Hangul. -/
def isHangulSyllable (n : Nat) : Bool := 0xac00 ≤ n && n < 0xac00 + 11172

/-- The letters of a syllable of Hangul: a consonant, a vowel, and a consonant unless it is open. -/
def hangulLetters (n : Nat) : List Nat :=
  let i := n - 0xac00
  [0x1100 + i / 588, 0x1161 + i % 588 / 28] ++ if i % 28 = 0 then [] else [0x11a7 + i % 28]

/-- The pair that a composite stands for. -/
def pairOf? (n : Nat) : Option (Nat × Nat) :=
  (composites.find? fun r => r.2.2 == n).map fun r => (r.1, r.2.1)

/-- How often the first of a pair can be a composite in its turn. -/
def compositeDepth : Nat := 4

/-- What a composite is made of; its first part is taken apart as well. -/
def partsOf : (depth : Nat) → Nat → List Nat
  | 0, n => [n]
  | depth + 1, n =>
    match pairOf? n with
    | some (a, b) => partsOf depth a ++ [b]
    | none => [n]

/-- The text with every composite taken apart. -/
def takeApart (cs : List Nat) : List Nat :=
  cs.flatMap fun n => if isHangulSyllable n then hangulLetters n else partsOf compositeDepth n

/-! ## The order of marks -/

/-- Puts a character behind others, given with the last one first: a mark goes before the marks of
greater classes. -/
def putLast (c : Nat) : List Nat → List Nat
  | [] => [c]
  | d :: r =>
    if combiningClass c ≠ 0 && combiningClass c < combiningClass d then d :: putLast c r
    else c :: d :: r

/-- The text with the marks in canonical order. -/
def sortMarks (cs : List Nat) : List Nat := (cs.foldl (fun acc c => putLast c acc) []).reverse

/-! ## Putting together -/

/-- The composite of a pair. -/
def compose? (a b : Nat) : Option Nat :=
  if 0x1100 ≤ a && a < 0x1113 && 0x1161 ≤ b && b < 0x1176 then
    some (0xac00 + ((a - 0x1100) * 21 + (b - 0x1161)) * 28)
  else if isHangulSyllable a && (a - 0xac00) % 28 == 0 && 0x11a8 ≤ b && b < 0x11c3 then
    some (a + (b - 0x11a7))
  else (composites.find? fun r => r.1 == a && r.2.1 == b).map fun r => r.2.2

/-- A text that is being composed: what is finished, the last one first, and the last starter with the
marks after it, the last one first, that did not combine with it. -/
structure Composing where
  finished : List Nat
  starter : Option Nat
  marks : List Nat

/-- The characters so far, the last one first. -/
def Composing.all (s : Composing) : List Nat := s.marks ++ s.starter.toList ++ s.finished

/-- Whether nothing stands between the starter and the next character that keeps them apart. -/
def Composing.reaches (s : Composing) (c : Nat) : Bool :=
  match s.marks with
  | [] => true
  | m :: _ => combiningClass m < combiningClass c

/-- Goes on with a character. -/
def Composing.add (s : Composing) (c : Nat) : Composing :=
  match s.starter.bind fun a => if s.reaches c then compose? a c else none with
  | some composite => { s with starter := some composite }
  | none =>
    if combiningClass c = 0 then ⟨s.all, some c, []⟩ else { s with marks := c :: s.marks }

/-- The text with pairs composed. -/
def putTogether (cs : List Nat) : List Nat := (cs.foldl Composing.add ⟨[], none, []⟩).all.reverse

/-! ## The form -/

/-- Whether a text is in normalization form C. -/
def isComposed (cs : List Nat) : Bool :=
  !cs.any (within uncomposedRanges) && putTogether (sortMarks (takeApart cs)) == cs

end DidRegistry.Unicode
