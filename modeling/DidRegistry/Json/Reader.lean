import DidRegistry.Json.Basic
import DidRegistry.Number.Binary64
import DidRegistry.Platform
import DidRegistry.Text.Utf8
import DidRegistry.Text.Wide

/-!
# Reading JSON

The grammar is the usual one, with three additions: the words `NaN`, `Infinity` and `-Infinity` are
numbers, a key that comes twice keeps its first place and its last value, and a string may have lone
halves of surrogate pairs in it, as they are or as escapes.  A number without fraction and exponent is
whole and of any size up to `digitLimit` digits.  Control characters must be escaped inside a string.
How far the reader goes into lists and objects in one another is up to the platform.

A byte sequence says its encoding by a byte order mark or by where the zeros of its first four
bytes are; without either it is UTF-8.
-/

set_option autoImplicit false

namespace DidRegistry.Json

/-- Why a text is no JSON value. -/
inductive ReadError where
  /-- It is not in the grammar. -/
  | malformed
  /-- It has a whole number of too many digits. -/
  | tooLong
  /-- Its lists and objects lie too deep in one another. -/
  | tooDeep
deriving DecidableEq, Repr

/-- What a reader gives back: a result and the text after it. -/
abbrev Read (α : Type) := Except ReadError (α × List Point)

/-- White space between tokens. -/
def isSpace (p : Point) : Bool :=
  p = .char ' ' || p = .char '\t' || p = .char '\n' || p = .char '\r'

/-- The text after white space. -/
def skipSpace (s : List Point) : List Point := s.dropWhile isSpace

/-- The number that the four digits of a `u` escape spell. -/
def escape4 (a b c d : Point) : Option Nat :=
  match Text.hexDigit? a.toChar, Text.hexDigit? b.toChar, Text.hexDigit? c.toChar,
      Text.hexDigit? d.toChar with
  | some w, some x, some y, some z => some (w * 0x1000 + x * 0x100 + y * 0x10 + z)
  | _, _, _, _ => none

/-- The character of a one letter escape. -/
def escape1 : Point → Option Char
  | .char '"' => some '"'
  | .char '\\' => some '\\'
  | .char '/' => some '/'
  | .char 'b' => some '\x08'
  | .char 'f' => some '\x0c'
  | .char 'n' => some '\n'
  | .char 'r' => some '\r'
  | .char 't' => some '\t'
  | _ => none

/-- A part of a string: a point as it stands, or the number of a `u` escape. -/
inductive Part where
  | plain (p : Point)
  | escape (n : Nat)
deriving DecidableEq, Repr

/-- Puts a part in front of what was read. -/
def withPart (x : Part) (rest : Read (List Part)) : Read (List Part) :=
  rest.map fun p => (x :: p.1, p.2)

/-- The rest of a string after its opening quote: its parts, and the text after the closing quote. -/
def readParts : List Point → Read (List Part)
  | [] => .error .malformed
  | .char '"' :: r => .ok ([], r)
  | .char '\\' :: .char 'u' :: a :: b :: c :: d :: r =>
    match escape4 a b c d with
    | some n => withPart (.escape n) (readParts r)
    | none => .error .malformed
  | .char '\\' :: c :: r =>
    match escape1 c with
    | some x => withPart (.plain (.char x)) (readParts r)
    | none => .error .malformed
  | p :: r =>
    if p.code < 0x20 ∨ p = .char '\\' then .error .malformed else withPart (.plain p) (readParts r)

/-- The points of the parts: two escapes in a row that spell the two halves of a surrogate pair are one
character. -/
def pointsOf : List Part → List Point
  | [] => []
  | .plain p :: r => p :: pointsOf r
  | .escape m :: .escape n :: r =>
    if 0xd800 ≤ m ∧ m < 0xdc00 ∧ 0xdc00 ≤ n ∧ n < 0xe000 then
      .char (Char.ofNat (0x10000 + (m - 0xd800) * 0x400 + (n - 0xdc00))) :: pointsOf r
    else (Point.ofCode? m).toList ++ pointsOf (.escape n :: r)
  | .escape m :: r => (Point.ofCode? m).toList ++ pointsOf r

/-- The text after an opening quote, up to the closing one. -/
def readText (s : List Point) : Read Text :=
  (readParts s).map fun p => (⟨pointsOf p.1⟩, p.2)

/-- The ASCII digits at the start of a text, and the text after them. -/
def spanDigits (s : List Point) : List Nat × List Point :=
  let digit? := fun (p : Point) => Text.asciiDigit? p.toChar
  ((s.takeWhile fun p => (digit? p).isSome).filterMap digit?, s.dropWhile fun p => (digit? p).isSome)

/-- The number that digits stand for. -/
def ofDigits (ds : List Nat) : Nat :=
  ds.foldl (fun n d => n * 10 + d) 0

/-- The fraction at the start of a text: its digits, none when there is no fraction. -/
def readFraction : List Point → List Nat × List Point
  | .char '.' :: r =>
    match spanDigits r with
    | ([], _) => ([], .char '.' :: r)
    | (ds, r') => (ds, r')
  | r => ([], r)

/-- The exponent at the start of a text, if there is one. -/
def readExponent : List Point → Option Int × List Point
  | e :: r =>
    if e = .char 'e' ∨ e = .char 'E' then
      let (negative, ds) := match r with
        | .char '-' :: r' => (true, r')
        | .char '+' :: r' => (false, r')
        | _ => (false, r)
      match spanDigits ds with
      | ([], _) => (none, e :: r)
      | (ds, r') => (some (if negative then -(ofDigits ds : Int) else ofDigits ds), r')
    else (none, e :: r)
  | [] => (none, [])

/-- A number after its sign. -/
def readNumber (negative : Bool) (s : List Point) : Read Json :=
  let (ds, r) := match s with
    | .char '0' :: r => ([0], r)
    | _ => spanDigits s
  if ds.isEmpty then .error .malformed
  else
    let (fraction, r) := readFraction r
    let (exponent, r) := readExponent r
    if fraction.isEmpty && exponent.isNone then
      if digitLimit < ds.length then .error .tooLong
      else
        let n := ofDigits ds
        .ok (.int (if negative then -(n : Int) else n), r)
    else
      .ok (.real (Binary64.ofDecimal negative (ofDigits (ds ++ fraction))
        (exponent.getD 0 - fraction.length)), r)

/-- Drops `word` from the start of a text. -/
def dropWord : (word : List Char) → List Point → Option (List Point)
  | [], r => some r
  | _ :: _, [] => none
  | w :: ws, p :: r => if p = .char w then dropWord ws r else none

/-- The words that are values. -/
def words : List (String × Json) :=
  [("null", .null), ("true", .bool true), ("false", .bool false), ("NaN", .real .nan),
    ("Infinity", .real (.infinity false)), ("-Infinity", .real (.infinity true))]

/-- A word that is a value. -/
def readWord (s : List Point) : Option (Json × List Point) :=
  words.findSome? fun w => (dropWord w.1.toList s).map fun r => (w.2, r)

/-- A value that is no list and no object. -/
def readScalar (s : List Point) : Read Json :=
  match readWord s with
  | some p => .ok p
  | none =>
    match s with
    | .char '"' :: r => (readText r).map fun p => (.str p.1, p.2)
    | .char '-' :: r => readNumber true r
    | _ => readNumber false s

/-- Refuses a list or an object where there is no room for one more. -/
def ifRoom {α : Type} (room : Nat) (r : Read α) : Read α :=
  if room = 0 then .error .tooDeep else r

mutual

/-- A value at the start of a text, with room for so many lists and objects in one another. -/
def readValue : (fuel room : Nat) → List Point → Read Json
  | 0, _, _ => .error .malformed
  | fuel + 1, room, s =>
    match s with
    | .char '[' :: r =>
      ifRoom room <|
        match skipSpace r with
        | .char ']' :: r' => .ok (.arr [], r')
        | r' => (readItems fuel (room - 1) r').map fun p => (.arr p.1, p.2)
    | .char '\x7b' :: r =>
      ifRoom room <|
        match skipSpace r with
        | .char '\x7d' :: r' => .ok (.obj [], r')
        | r' => (readMembers fuel (room - 1) [] r').map fun p => (.obj p.1, p.2)
    | _ => readScalar s

/-- The items of a list up to its closing bracket. -/
def readItems : (fuel room : Nat) → List Point → Read (List Json)
  | 0, _, _ => .error .malformed
  | fuel + 1, room, s =>
    match readValue fuel room s with
    | .error e => .error e
    | .ok (v, r) =>
      match skipSpace r with
      | .char ']' :: r' => .ok ([v], r')
      | .char ',' :: r' => (readItems fuel room (skipSpace r')).map fun p => (v :: p.1, p.2)
      | _ => .error .malformed

/-- The members of an object up to its closing brace, after those already read. -/
def readMembers : (fuel room : Nat) → (sofar : Members) → List Point → Read Members
  | 0, _, _, _ => .error .malformed
  | fuel + 1, room, sofar, s =>
    match s with
    | .char '"' :: r =>
      match readText r with
      | .error e => .error e
      | .ok (key, r) =>
        match skipSpace r with
        | .char ':' :: r =>
          match readValue fuel room (skipSpace r) with
          | .error e => .error e
          | .ok (v, r) =>
            let sofar := Members.put key v sofar
            match skipSpace r with
            | .char '\x7d' :: r' => .ok (sofar, r')
            | .char ',' :: r' => readMembers fuel room sofar (skipSpace r')
            | _ => .error .malformed
        | _ => .error .malformed
    | _ => .error .malformed

end

/-- The value that a text is the form of, read with room for so many lists and objects in one
another. -/
def readWithin (room : Nat) (s : List Point) : Except ReadError Json :=
  match readValue (2 * s.length + 2) room (skipSpace s) with
  | .error e => .error e
  | .ok (v, r) => if (skipSpace r).isEmpty then .ok v else .error .malformed

variable [Platform]

/-- The value that a text is the form of. -/
def read (s : List Point) : Except ReadError Json := readWithin Platform.readRoom s

/-- Why bytes are no JSON value. -/
inductive BodyError where
  /-- They are no text in the encoding that they say. -/
  | encoding
  | text (error : ReadError)
deriving DecidableEq, Repr

/-- The points of a byte sequence in the encoding that it says. -/
def bodyPoints (bytes : List UInt8) : Option (List Point) :=
  match bytes with
  | 0x00 :: 0x00 :: 0xfe :: 0xff :: r => Text.Wide.decode32 .big r
  | 0xff :: 0xfe :: 0x00 :: 0x00 :: r => Text.Wide.decode32 .little r
  | 0xfe :: 0xff :: r => Text.Wide.decode16 .big r
  | 0xff :: 0xfe :: r => Text.Wide.decode16 .little r
  | 0xef :: 0xbb :: 0xbf :: r => Text.Utf8.decodePoints r
  | a :: b :: c :: d :: _ =>
    if a = 0 then if b = 0 then Text.Wide.decode32 .big bytes else Text.Wide.decode16 .big bytes
    else if b = 0 then
      if c = 0 ∧ d = 0 then Text.Wide.decode32 .little bytes else Text.Wide.decode16 .little bytes
    else Text.Utf8.decodePoints bytes
  | [a, b] =>
    if a = 0 then Text.Wide.decode16 .big bytes
    else if b = 0 then Text.Wide.decode16 .little bytes
    else Text.Utf8.decodePoints bytes
  | _ => Text.Utf8.decodePoints bytes

/-- The value that bytes are the form of. -/
def readBody (bytes : List UInt8) : Except BodyError Json :=
  match bodyPoints bytes with
  | none => .error .encoding
  | some s =>
    match read s with
    | .ok v => .ok v
    | .error e => .error (.text e)

end DidRegistry.Json
