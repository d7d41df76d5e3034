import DidRegistry.Report

/-!
# Base64 with the URL alphabet

Payloads, key members and token segments are byte sequences in base64 with `-` and `_` for the last
two digits and without padding.

There are two ways of reading.  The strict one takes the digits and a padding at the end of the
text only; the lenient one, which token segments use, skips whatever is no digit.  Both ignore the
bits that the last digit has too many.
-/

set_option autoImplicit false

namespace DidRegistry.Text.Base64

/-- The digits in the order of their values. -/
def alphabet : List Char :=
  "ABCDEFGHIJKLMNOPQRSTUVWXYZabcdefghijklmnopqrstuvwxyz0123456789-_".toList

/-- The digit of a value below 64. -/
def digit (n : Nat) : Char := alphabet.getD n 'A'

/-- The value of a digit; `+` and `/` are digits of the other alphabet. -/
def digit? (c : Char) : Option Nat :=
  if 'A' ≤ c ∧ c ≤ 'Z' then some (c.toNat - 65)
  else if 'a' ≤ c ∧ c ≤ 'z' then some (c.toNat - 71)
  else if '0' ≤ c ∧ c ≤ '9' then some (c.toNat + 4)
  else if c = '-' then some 62
  else if c = '_' then some 63
  else none

/-- The digits of a byte sequence, four for three bytes. -/
def encode : List UInt8 → List Char
  | [] => []
  | [a] => [digit (a.toNat / 4), digit (a.toNat % 4 * 16)]
  | [a, b] =>
    [digit (a.toNat / 4), digit (a.toNat % 4 * 16 + b.toNat / 16), digit (b.toNat % 16 * 4)]
  | a :: b :: c :: r =>
    digit (a.toNat / 4) :: digit (a.toNat % 4 * 16 + b.toNat / 16) ::
      digit (b.toNat % 16 * 4 + c.toNat / 64) :: digit (c.toNat % 64) :: encode r

/-- What a character is to the reader. -/
inductive Symbol where
  | digit (value : Nat)
  | padding
  | foreign
deriving DecidableEq, Repr

/-- Reads symbols.  `place` digits of the current group of four have been read, `held` are the bits
of them not yet in a byte, `pads` paddings came since the last digit, and `padded` says whether
there was any padding at all. -/
def decodeFrom (strict : Bool) : (place held pads : Nat) → (padded : Bool) → List Symbol →
    Option (List UInt8)
  | place, _, _, _, [] => if place = 0 then some [] else none
  | place, held, pads, _, .padding :: r =>
    if place < 2 then decodeFrom strict place held pads true r
    else if place + (pads + 1) < 4 then decodeFrom strict place held (pads + 1) true r
    else if strict && !r.isEmpty then none
    else some []
  | place, held, pads, padded, .foreign :: r =>
    if strict then none else decodeFrom strict place held pads padded r
  | place, held, _, padded, .digit n :: r =>
    if strict && padded then none
    else match place with
      | 0 => decodeFrom strict 1 n 0 padded r
      | 1 => (decodeFrom strict 2 (n % 16) 0 padded r).map (UInt8.ofNat (held * 4 + n / 16) :: ·)
      | 2 => (decodeFrom strict 3 (n % 4) 0 padded r).map (UInt8.ofNat (held * 16 + n / 4) :: ·)
      | _ => (decodeFrom strict 0 0 0 padded r).map (UInt8.ofNat (held * 64 + n) :: ·)

/-- Why a text is no payload. -/
inductive Error where
  /-- It has a digit of the other alphabet. -/
  | plusOrSlash
  /-- It has a character beyond ASCII. -/
  | notAscii
  /-- Its characters or its length do not fit. -/
  | malformed
deriving DecidableEq, Repr

/-- The report of a text that is refused for a cause. -/
def refusedFor (cause : Report) : Report :=
  (Report.plain .value (say "not base64url: " ++ cause.message)).because cause

/-- The report of the error. -/
def Error.report : Error → Report
  | .plusOrSlash => .plain .value (say "not base64url: contains '+' or '/'")
  | .notAscii => refusedFor (.silent .unencodable)
  | .malformed => refusedFor (.silent .base64)

/-- A character of a text in the URL alphabet. -/
def symbol (c : Char) : Symbol :=
  if c = '=' then .padding
  else match digit? c with
    | some n => .digit n
    | none => .foreign

/-- The bytes of a text in the URL alphabet; the padding may be missing. -/
def decode (s : List Char) : Except Error (List UInt8) :=
  if s.any fun c => c == '+' || c == '/' then .error .plusOrSlash
  else if s.any fun c => 0x80 ≤ c.toNat then .error .notAscii
  else
    let symbols := s.map symbol ++ List.replicate ((4 - s.length % 4) % 4) .padding
    -- a text that starts with a padding is refused
    if symbols.head? = some .padding then .error .malformed
    else match decodeFrom true 0 0 0 false symbols with
      | some bytes => .ok bytes
      | none => .error .malformed

/-- A byte of a token segment: both alphabets count. -/
def lenientSymbol (b : UInt8) : Symbol :=
  let c := Char.ofNat b.toNat
  if c = '=' then .padding
  else if c = '+' then .digit 62
  else if c = '/' then .digit 63
  else match digit? c with
    | some n => .digit n
    | none => .foreign

/-- The bytes of a token segment. -/
def decodeLenient (segment : List UInt8) : Option (List UInt8) :=
  let symbols := segment.map lenientSymbol ++
    List.replicate ((4 - segment.length % 4) % 4) .padding
  decodeFrom false 0 0 0 false symbols

end DidRegistry.Text.Base64
