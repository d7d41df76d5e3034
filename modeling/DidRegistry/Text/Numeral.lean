import DidRegistry.Text.Blank
import DidRegistry.Text.Digit
import DidRegistry.Text.Quoted

/-!
# Numbers in settings and replies

A number written as text may be surrounded by white space and have a sign, its digits may be of
any script, and a single low line may stand between two of them.  Whole numbers are read in base
ten or sixteen, the latter with an optional `0x`; a base ten numeral of more than 4300 digits is
refused.  A decimal has a fraction, an exponent or the name of an infinity or of no number.
-/

set_option autoImplicit false

namespace DidRegistry.Text.Numeral

/-- The ASCII spelling of one character of a numeral. -/
def plainChar? (c : Char) : Option Char :=
  if c.toNat < 0x7f then some c
  else if isBlank c then some ' '
  else (decimalDigit? c).map decimalDigit

/-- The numeral with ASCII digits and blanks.  A character that has no place in a numeral ends it; a
question mark, which has none either, stands for it. -/
def plain : List Char → List Char
  | [] => []
  | c :: r =>
    match plainChar? c with
    | some d => d :: plain r
    | none => ['?']

/-- Reads digits with single low lines between them: the number and the count of its digits. -/
def digits (digit? : Char → Option Nat) (base : Nat) : (afterDigit : Bool) → (value count : Nat) →
    List Char → Option (Nat × Nat)
  | afterDigit, value, count, [] => if afterDigit then some (value, count) else none
  | afterDigit, value, count, c :: r =>
    if c = '_' then
      if afterDigit then digits digit? base false value count r else none
    else match digit? c with
      | some d => digits digit? base true (value * base + d) (count + 1) r
      | none => none

/-- Why a text is no whole number in base ten. -/
inductive Error where
  /-- It is no numeral. -/
  | notANumeral (text : Text)
  /-- It has too many digits. -/
  | tooLong
deriving DecidableEq, Repr

/-- What is said of a text that is no numeral of a base.  At most 200 characters of it are shown. -/
def fault (base : Nat) (text : Text) : String :=
  "invalid literal for int() with base " ++ String.ofList (decimal base) ++ ": " ++
    String.ofList (text.quoted.toList.take 200)

/-- The greatest number of digits that a base ten numeral may have. -/
def digitLimit : Nat := 4300

/-- The sign in front of a numeral, and the rest. -/
def sign : List Char → Bool × List Char
  | '+' :: r => (false, r)
  | '-' :: r => (true, r)
  | r => (false, r)

/-- The number with a sign. -/
def signed (negative : Bool) (n : Nat) : Int :=
  if negative then -(n : Int) else n

/-- The whole number that a base ten numeral stands for.  The digits are counted before anything is
said about what stands behind them. -/
def decimal? (text : Text) : Except Error Int :=
  let fail : Except Error Int := .error (.notANumeral text)
  let (negative, s) := sign ((plain text.chars).dropWhile isAsciiBlank)
  let inRun := fun c => c == '_' || (asciiDigit? c).isSome
  match digits asciiDigit? 10 false 0 0 (s.takeWhile inRun) with
  | none => fail
  | some (n, count) =>
    if digitLimit < count then .error .tooLong
    else if ((s.dropWhile inRun).dropWhile isAsciiBlank).isEmpty then .ok (signed negative n)
    else fail

/-- Drops the base prefix of a hexadecimal numeral and one low line after it. -/
def dropHexMark : List Char → List Char
  | '0' :: x :: r =>
    if x = 'x' ∨ x = 'X' then
      match r with
      | '_' :: r' => r'
      | _ => r
    else '0' :: x :: r
  | s => s

/-- The whole number that a base sixteen numeral stands for. -/
def hexadecimal? (text : Text) : Option Int :=
  let (negative, s) := sign (trim isAsciiBlank (plain text.chars))
  (digits hexDigit? 16 false 0 0 (dropHexMark s)).map fun (n, _) => signed negative n

/-- A decimal as it is written: its digits as one number and the power of ten that it is times. -/
inductive Written where
  | finite (negative : Bool) (digits : Nat) (exponent : Int)
  | infinity (negative : Bool)
  | nan
deriving DecidableEq, Repr

/-- Takes out low lines; each has to stand between two digits. -/
def dropLowLines : (afterDigit : Bool) → List Char → Option (List Char)
  | _, [] => some []
  | afterDigit, c :: r =>
    if c = '_' then
      match r with
      | [] => none
      | d :: _ =>
        if afterDigit && (asciiDigit? d).isSome then dropLowLines false r else none
    else (dropLowLines (asciiDigit? c).isSome r).map (c :: ·)

/-- The number that a run of digits continues. -/
def continued (n : Nat) (ds : List Char) : Nat :=
  ds.foldl (fun n c => n * 10 + (asciiDigit? c).getD 0) n

/-- The exponent part of a decimal: the whole of the text. -/
def exponent? : List Char → Option Int
  | [] => some 0
  | e :: r =>
    if e = 'e' ∨ e = 'E' then
      let (negative, ds) := sign r
      if !ds.isEmpty && ds.all fun c => (asciiDigit? c).isSome then
        some (signed negative (continued 0 ds))
      else none
    else none

/-- The digits of a decimal without sign. -/
def unsigned? (negative : Bool) (s : List Char) : Option Written :=
  let isDigit := fun c => (asciiDigit? c).isSome
  let whole := s.takeWhile isDigit
  let rest := s.dropWhile isDigit
  let (fraction, rest) := match rest with
    | '.' :: r => (r.takeWhile isDigit, r.dropWhile isDigit)
    | r => ([], r)
  if whole.isEmpty && fraction.isEmpty then none
  else (exponent? rest).map fun e =>
    .finite negative (continued (continued 0 whole) fraction) (e - fraction.length)

/-- The decimal that a text writes. -/
def written? (text : Text) : Option Written :=
  (dropLowLines false (trim isAsciiBlank (plain text.chars))).bind fun s =>
    let (negative, s) := sign s
    let name := String.ofList (s.map Char.toLower)
    if name = "inf" ∨ name = "infinity" then some (.infinity negative)
    else if name = "nan" then some .nan
    else unsigned? negative s

end DidRegistry.Text.Numeral
