/-!
# Texts

A text is a sequence of code points.  Most of them are characters, but a text that comes from outside
may hold one half of a surrogate pair, which stands for no character and has no bytes.  Everything
that a text is compared, sorted or shown by goes by its points; what looks for characters in it sees
the replacement character in the place of a lone half, which no rule gives a meaning to.

## Results

* `Point.ofCode?_code` — a point is found again by its number.
* `Text.chars_ofChars` — the characters of a text made of characters are those characters.
* `Text.ofChars_chars` — a text in which no point counts as the replacement character is made of characters.
* `Text.wellFormed?_ofChars` — a text made of characters holds no lone half.
-/

set_option autoImplicit false

namespace DidRegistry

/-- A code point: a character, or one half of a surrogate pair. -/
inductive Point where
  | char (c : Char)
  /-- A half by its distance from U+D800. -/
  | lone (half : Fin 0x800)
deriving DecidableEq, Repr, Inhabited

namespace Point

/-- The number of a point. -/
def code : Point → Nat
  | .char c => c.toNat
  | .lone h => 0xd800 + h.val

/-- The point with a number below U+110000. -/
def ofCode? (n : Nat) : Option Point :=
  if h : 0xd800 ≤ n ∧ n < 0xe000 then some (.lone ⟨n - 0xd800, by omega⟩)
  else if n < 0x110000 then some (.char (Char.ofNat n))
  else none

/-- The character that a point counts as: a lone half is the replacement character. -/
def toChar : Point → Char
  | .char c => c
  | .lone _ => '\ufffd'

/-- The character that a point is. -/
def char? : Point → Option Char
  | .char c => some c
  | .lone _ => none

/-- A point is found again by its number. -/
theorem ofCode?_code (p : Point) : ofCode? p.code = some p := by
  cases p with
  | char c =>
    have hv := c.valid
    simp only [UInt32.isValidChar, Nat.isValidChar] at hv
    have hn : c.toNat = c.val.toNat := rfl
    have hl : ¬(0xd800 ≤ c.toNat ∧ c.toNat < 0xe000) := by omega
    have hs : c.toNat < 0x110000 := by omega
    have hc : (Point.char c).code = c.toNat := rfl
    unfold ofCode?
    rw [hc]
    simp [hl, hs]
  | lone h =>
    have hl : 0xd800 ≤ 0xd800 + h.val ∧ 0xd800 + h.val < 0xe000 := by omega
    have hc : (Point.lone h).code = 0xd800 + h.val := rfl
    unfold ofCode?
    rw [hc]
    simp [hl]

end Point

/-- A text. -/
structure Text where
  points : List Point
deriving DecidableEq, Repr, Inhabited

namespace Text

/-- The text of characters. -/
def ofChars (cs : List Char) : Text := ⟨cs.map .char⟩

/-- The text of a string. -/
def ofString (s : String) : Text := ofChars s.toList

instance : Coe String Text := ⟨ofString⟩

instance : Append Text := ⟨fun a b => ⟨a.points ++ b.points⟩⟩

/-- The characters that the points count as. -/
def chars (t : Text) : List Char := t.points.map Point.toChar

/-- The string of the characters that the points count as. -/
def shown (t : Text) : String := String.ofList t.chars

/-- The characters of a text without lone halves. -/
def wellFormed? (t : Text) : Option (List Char) := t.points.mapM Point.char?

/-- Whether every point is a character. -/
def isWellFormed (t : Text) : Bool := t.points.all fun p => p.char?.isSome

/-- Whether there is no point. -/
def isEmpty (t : Text) : Bool := t.points.isEmpty

/-- The numbers of the points. -/
def codes (t : Text) : List Nat := t.points.map Point.code

/-- The order of texts: that of their code points. -/
def le (a b : Text) : Bool := !b.codes.lex a.codes

/-- Texts one after the other. -/
def join (ts : List Text) : Text := ⟨ts.flatMap points⟩

theorem chars_ofChars (cs : List Char) : (ofChars cs).chars = cs := by
  simp only [ofChars, chars, List.map_map]
  exact (List.map_congr_left fun _ _ => rfl).trans (List.map_id cs)

theorem ofChars_chars {t : Text} (h : '\ufffd' ∉ t.chars) : ofChars t.chars = t := by
  have hp : ∀ p ∈ t.points, Point.char p.toChar = p := by
    intro p hp
    cases p with
    | char c => rfl
    | lone half => exact (h (List.mem_map.mpr ⟨.lone half, hp, rfl⟩)).elim
  simp only [ofChars, chars, List.map_map]
  exact congrArg Text.mk ((List.map_congr_left hp).trans (List.map_id t.points))

theorem wellFormed?_ofChars (cs : List Char) : (ofChars cs).wellFormed? = some cs := by
  induction cs with
  | nil => rfl
  | cons c r ih =>
    simp only [wellFormed?, ofChars, List.map_cons, List.mapM_cons, Point.char?] at ih ⊢
    rw [ih]
    rfl

end Text

end DidRegistry
