import DidRegistry.Text.Blank
import DidRegistry.Text.Digit

/-!
# Bytes as hexadecimal digits

Two lower-case digits a byte.  Reading takes either case and skips white space between bytes, never
inside one.

## Results

* `decode_encode` — what was written is read back.
-/

set_option autoImplicit false

namespace DidRegistry.Text.Hex

/-- The two digits of a byte. -/
def encodeByte (b : UInt8) : List Char :=
  [hexDigit (b.toNat / 16), hexDigit (b.toNat % 16)]

/-- The digits of a byte sequence. -/
def encode (bytes : List UInt8) : List Char :=
  bytes.flatMap encodeByte

/-- The bytes of a run of digits; white space may stand between two bytes. -/
def decode : List Char → Option (List UInt8)
  | [] => some []
  | c :: r =>
    if isAsciiBlank c then decode r
    else match r with
      | [] => none
      | d :: r' =>
        match hexDigit? c, hexDigit? d with
        | some x, some y => (decode r').map (UInt8.ofNat (16 * x + y) :: ·)
        | _, _ => none

theorem isAsciiBlank_hexDigit : ∀ n, n < 16 → isAsciiBlank (hexDigit n) = false := by decide

theorem decode_encodeByte (b : UInt8) (r : List Char) :
    decode (encodeByte b ++ r) = (decode r).map (b :: ·) := by
  have hb := b.toNat_lt
  simp only [encodeByte, List.cons_append, List.nil_append, decode,
    isAsciiBlank_hexDigit _ (show b.toNat / 16 < 16 by omega),
    hexDigit?_hexDigit _ (show b.toNat / 16 < 16 by omega),
    hexDigit?_hexDigit _ (show b.toNat % 16 < 16 by omega),
    show 16 * (b.toNat / 16) + b.toNat % 16 = b.toNat by omega]
  simp

/-- What was written is read back. -/
theorem decode_encode (bytes : List UInt8) : decode (encode bytes) = some bytes := by
  induction bytes with
  | nil => rfl
  | cons b r ih =>
    have : encode (b :: r) = encodeByte b ++ encode r := rfl
    rw [this, decode_encodeByte, ih]
    rfl

end DidRegistry.Text.Hex
