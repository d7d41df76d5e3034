import DidRegistry.Text.Basic

/-!
# White space around a text

Identifiers, whole numbers and decimals may be surrounded by white space.  A character counts as
white space when Unicode gives it the property White_Space or when it is one of the four
information separators U+001C to U+001F.

## Results

* `trim_eq_self` — a text whose ends are not blank is its own stripped form.
-/

set_option autoImplicit false

namespace DidRegistry.Text

/-- White space: the property White_Space and the information separators. -/
def isBlank (c : Char) : Bool :=
  let n := c.toNat
  (0x9 ≤ n && n ≤ 0xd) || (0x1c ≤ n && n ≤ 0x20) || n == 0x85 || n == 0xa0 || n == 0x1680 ||
    (0x2000 ≤ n && n ≤ 0x200a) || n == 0x2028 || n == 0x2029 || n == 0x202f || n == 0x205f ||
    n == 0x3000

/-- White space inside a run of hexadecimal bytes: the six ASCII ones. -/
def isAsciiBlank (c : Char) : Bool :=
  let n := c.toNat
  (0x9 ≤ n && n ≤ 0xd) || n == 0x20

/-- Drops the trailing elements that satisfy `p`. -/
def dropEndWhile {α : Type} (p : α → Bool) (s : List α) : List α :=
  (s.reverse.dropWhile p).reverse

/-- Drops the elements that satisfy `p` at both ends. -/
def trim {α : Type} (p : α → Bool) (s : List α) : List α :=
  dropEndWhile p (s.dropWhile p)

/-- The text without the white space at both of its ends. -/
def strip (t : Text) : Text :=
  ⟨trim (fun p => isBlank p.toChar) t.points⟩

/-- A sequence whose ends do not satisfy `p` is left as it is. -/
theorem trim_eq_self {α : Type} {p : α → Bool} {s : List α}
    (hd : ∀ c, s.head? = some c → p c = false) (tl : ∀ c, s.getLast? = some c → p c = false) :
    trim p s = s := by
  have h1 : s.dropWhile p = s := by
    cases s with
    | nil => rfl
    | cons c r => simp [hd c rfl]
  have h2 : s.reverse.dropWhile p = s.reverse := by
    cases h : s.reverse with
    | nil => rfl
    | cons c r =>
      have : s.getLast? = some c := by rw [List.getLast?_eq_head?_reverse, h]; rfl
      simp [tl c this]
  simp [trim, dropEndWhile, h1, h2]

end DidRegistry.Text
