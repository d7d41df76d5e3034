import DidRegistry.Text.Basic

/-!
# UTF-8

Code points as byte sequences of one to four bytes, and the way back.  Every byte sequence is the
form of at most one sequence of points, so overlong forms and values above U+10FFFF are refused.
Read as characters the bytes must not have a half of a surrogate pair either; read as points, as JSON
bodies are, they may.

## Results

* `decodePoints_encodePoints` — points that were encoded are decoded to themselves.
* `decode_encode` — characters that were encoded are decoded to themselves.
-/

set_option autoImplicit false

namespace DidRegistry.Text.Utf8

/-- The bytes of one code point below 2^21. -/
def encodePoint (n : Nat) : List UInt8 :=
  if n < 0x80 then [UInt8.ofNat n]
  else if n < 0x800 then [UInt8.ofNat (0xc0 + n / 0x40), UInt8.ofNat (0x80 + n % 0x40)]
  else if n < 0x10000 then
    [UInt8.ofNat (0xe0 + n / 0x1000), UInt8.ofNat (0x80 + n / 0x40 % 0x40),
      UInt8.ofNat (0x80 + n % 0x40)]
  else
    [UInt8.ofNat (0xf0 + n / 0x40000), UInt8.ofNat (0x80 + n / 0x1000 % 0x40),
      UInt8.ofNat (0x80 + n / 0x40 % 0x40), UInt8.ofNat (0x80 + n % 0x40)]

/-- The bytes of characters. -/
def encode (s : List Char) : List UInt8 :=
  s.flatMap fun c => encodePoint c.toNat

/-- The bytes of points, lone halves included. -/
def encodePoints (s : List Point) : List UInt8 :=
  s.flatMap fun p => encodePoint p.code

/-- The point of a number that is at least `low`. -/
def point? (low n : Nat) : Option Point :=
  if low ≤ n then Point.ofCode? n else none

/-- Decodes when `need` bytes of a point are still to come, `acc` holds the bits read of it and `low`
is the least code point that needs so many bytes. -/
def decodeFrom : (need low acc : Nat) → List UInt8 → Option (List Point)
  | 0, _, _, [] => some []
  | _ + 1, _, _, [] => none
  | 0, _, _, b :: r =>
    if b.toNat < 0x80 then (decodeFrom 0 0 0 r).map (.char (Char.ofNat b.toNat) :: ·)
    else if b.toNat < 0xc0 then none
    else if b.toNat < 0xe0 then decodeFrom 1 0x80 (b.toNat - 0xc0) r
    else if b.toNat < 0xf0 then decodeFrom 2 0x800 (b.toNat - 0xe0) r
    else if b.toNat < 0xf8 then decodeFrom 3 0x10000 (b.toNat - 0xf0) r
    else none
  | need + 1, low, acc, b :: r =>
    if 0x80 ≤ b.toNat ∧ b.toNat < 0xc0 then
      let n := acc * 0x40 + (b.toNat - 0x80)
      if need = 0 then (point? low n).bind fun p => (decodeFrom 0 0 0 r).map (p :: ·)
      else decodeFrom need low n r
    else none

/-- The points that the bytes are the form of, if there are any. -/
def decodePoints (bytes : List UInt8) : Option (List Point) :=
  decodeFrom 0 0 0 bytes

/-- The characters that the bytes are the form of, if there are any. -/
def decode (bytes : List UInt8) : Option (List Char) :=
  (decodePoints bytes).bind fun ps => ps.mapM Point.char?

theorem toNat_ofNat_of_lt {m : Nat} (h : m < 256) : (UInt8.ofNat m).toNat = m := by
  simp only [UInt8.toNat_ofNat']; omega

/-- A continuation byte that is not the last one. -/
theorem decodeFrom_tail {need low acc t : Nat} (h : t < 0x40) (r : List UInt8) :
    decodeFrom (need + 2) low acc (UInt8.ofNat (0x80 + t) :: r) =
      decodeFrom (need + 1) low (acc * 0x40 + t) r := by
  rw [decodeFrom, toNat_ofNat_of_lt (by omega), if_pos (by omega), if_neg (by omega),
    show acc * 0x40 + (0x80 + t - 0x80) = acc * 0x40 + t by omega]

/-- The continuation byte that completes the point `p`. -/
theorem decodeFrom_last {low acc t : Nat} {p : Point} (h : t < 0x40)
    (hp : acc * 0x40 + t = p.code) (hl : low ≤ p.code) (r : List UInt8) :
    decodeFrom 1 low acc (UInt8.ofNat (0x80 + t) :: r) = (decodePoints r).map (p :: ·) := by
  rw [decodeFrom, toNat_ofNat_of_lt (by omega), if_pos (by omega), if_pos rfl,
    show acc * 0x40 + (0x80 + t - 0x80) = p.code by omega, point?, if_pos hl, Point.ofCode?_code]
  rfl

theorem code_lt (p : Point) : p.code < 0x110000 := by
  cases p with
  | char c =>
    have hv := c.valid
    simp only [UInt32.isValidChar, Nat.isValidChar] at hv
    have hn : (Point.char c).code = c.val.toNat := rfl
    omega
  | lone h =>
    have hn : (Point.lone h).code = 0xd800 + h.val := rfl
    omega

theorem char_ofNat_code {p : Point} (h : p.code < 0x80) : .char (Char.ofNat p.code) = p := by
  cases p with
  | char c => exact congrArg Point.char (Char.ofNat_toNat c)
  | lone l =>
    have hn : (Point.lone l).code = 0xd800 + l.val := rfl
    omega

/-- One encoded point in front of more bytes. -/
theorem decodePoints_encodePoint (p : Point) (r : List UInt8) :
    decodePoints (encodePoint p.code ++ r) = (decodePoints r).map (p :: ·) := by
  have hv := code_lt p
  unfold encodePoint
  split
  · rw [List.cons_append, decodePoints, decodeFrom, toNat_ofNat_of_lt (by omega), if_pos (by omega),
      char_ofNat_code (by omega)]
    rfl
  split
  · rw [List.cons_append, decodePoints, decodeFrom, toNat_ofNat_of_lt (by omega), if_neg (by omega),
      if_neg (by omega), if_pos (by omega)]
    exact decodeFrom_last (by omega) (by omega) (by omega) r
  split
  · rw [List.cons_append, decodePoints, decodeFrom, toNat_ofNat_of_lt (by omega), if_neg (by omega),
      if_neg (by omega), if_neg (by omega), if_pos (by omega), List.cons_append,
      decodeFrom_tail (by omega)]
    exact decodeFrom_last (by omega) (by omega) (by omega) r
  · rw [List.cons_append, decodePoints, decodeFrom, toNat_ofNat_of_lt (by omega), if_neg (by omega),
      if_neg (by omega), if_neg (by omega), if_neg (by omega), if_pos (by omega), List.cons_append,
      decodeFrom_tail (by omega), List.cons_append, decodeFrom_tail (by omega)]
    exact decodeFrom_last (by omega) (by omega) (by omega) r

/-- Points that were encoded are decoded to themselves. -/
theorem decodePoints_encodePoints (s : List Point) : decodePoints (encodePoints s) = some s := by
  induction s with
  | nil => rfl
  | cons p r ih =>
    have : encodePoints (p :: r) = encodePoint p.code ++ encodePoints r := rfl
    rw [this, decodePoints_encodePoint, ih]
    rfl

theorem encodePoints_ofChars (s : List Char) : encodePoints (ofChars s).points = encode s := by
  induction s with
  | nil => rfl
  | cons c r ih => exact congrArg (encodePoint c.toNat ++ ·) ih

/-- Characters that were encoded are decoded to themselves. -/
theorem decode_encode (s : List Char) : decode (encode s) = some s := by
  rw [decode, ← encodePoints_ofChars, decodePoints_encodePoints]
  exact wellFormed?_ofChars s

end DidRegistry.Text.Utf8
