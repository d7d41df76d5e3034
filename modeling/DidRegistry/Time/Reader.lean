import DidRegistry.Text.Utf8
import DidRegistry.Time.Timestamp

/-!
# Reading timestamps

A timestamp is a date, any one character, a time and a zone.  The date is `YYYY-MM-DD` or `YYYYMMDD`,
or a week date `YYYY-Www-D`, `YYYY-Www`, `YYYYWwwD` or `YYYYWww`.  The time is `HH`, `HH:MM`, `HH:MM:SS`
or the same without colons, with a fraction after `.` or `,` of which six digits count.  The zone is
`Z` or a sign and a time below 24 hours.  Between time and zone one more character is let pass, and
after a fraction any number.

The reader goes by bytes: a character beyond ASCII takes the place of several.
-/

set_option autoImplicit false

namespace DidRegistry.Timestamp

/-- The digit that a byte is. -/
def digitOf? (b : UInt8) : Option Nat :=
  if 0x30 ≤ b.toNat ∧ b.toNat ≤ 0x39 then some (b.toNat - 0x30) else none

/-- Whether a byte is a digit. -/
def isDigit (b : UInt8) : Bool := (digitOf? b).isSome

/-- Exactly `count` digits at the start: their number and the rest. -/
def takeDigits : (count : Nat) → (n : Nat) → List UInt8 → Option (Nat × List UInt8)
  | 0, n, s => some (n, s)
  | _ + 1, _, [] => none
  | count + 1, n, b :: r => (digitOf? b).bind fun d => takeDigits count (n * 10 + d) r

/-- The byte at the start; zero at the end of the text. -/
def headByte (s : List UInt8) : UInt8 := s.headD 0

/-- The byte of an ASCII character. -/
def byte (c : Char) : UInt8 := UInt8.ofNat c.toNat

/-- The place of the character between date and time. -/
def datePlace (s : List UInt8) : Option Nat :=
  let at? := fun i => s.getD i 0
  if s.length = 7 then some 7
  else if at? 4 = byte '-' then
    if at? 5 = byte 'W' then
      if 8 < s.length ∧ at? 8 = byte '-' then
        if s.length = 9 then none
        -- a digit ten bytes in belongs to the time
        else if 10 < s.length ∧ isDigit (at? 10) then some 8
        else some 10
      else some 8
    else some 10
  else if at? 4 = byte 'W' then
    let stop := 7 + ((s.drop 7).takeWhile isDigit).length
    if stop < 9 then some stop else if stop % 2 = 0 then some 7 else some 8
  else some 8

/-- The date at the start of a text that runs up to `place`. -/
def readDate (s : List UInt8) (place : Nat) : Option Calendar.Date := do
  let (year, s) ← takeDigits 4 0 s
  let dashed := headByte s = byte '-'
  let s := if dashed then s.drop 1 else s
  if headByte s = byte 'W' then
    let (week, s) ← takeDigits 2 0 (s.drop 1)
    let used := if dashed then 8 else 7
    if used < place then
      if dashed ∧ headByte s ≠ byte '-' then none
      else
        let (day, _) ← takeDigits 1 0 (if dashed then s.drop 1 else s)
        Calendar.ofWeek? year week day
    else Calendar.ofWeek? year week 1
  else
    let (month, s) ← takeDigits 2 0 s
    if dashed ∧ headByte s ≠ byte '-' then none
    else
      let (day, _) ← takeDigits 2 0 (if dashed then s.drop 1 else s)
      some ⟨year, month, day⟩

/-- A time of day, and whether something that is no part of it stands behind it. -/
structure Clock where
  fields : List Nat
  microsecond : Nat
  hasRest : Bool

/-- The fraction of a second, `room` bytes before the end of the part that is read. -/
def readFraction (fields : List Nat) (s : List UInt8) (room : Nat) : Option Clock := do
  let count := min room 6
  let (n, s) ← takeDigits count 0 s
  some ⟨fields, n * Nat.pow 10 (6 - count), headByte (s.dropWhile isDigit) ≠ 0⟩

/-- The fields of a time: `left` of them may follow, `colons` says whether colons separate them. -/
def readFields : (left : Nat) → (isFirst colons : Bool) → (fields : List Nat) → List UInt8 →
    (room : Nat) → Option Clock
  | 0, _, _, fields, s, room => readFraction fields s room
  | left + 1, isFirst, colons, fields, s, room => do
    let (n, s) ← takeDigits 2 0 s
    let fields := fields ++ [n]
    let mark := headByte s
    let colons := if isFirst then mark = byte ':' else colons
    if room ≤ 3 then some ⟨fields, 0, mark ≠ 0⟩
    else if colons && mark = byte ':' then readFields left false colons fields (s.drop 1) (room - 3)
    else if mark = byte '.' ∨ mark = byte ',' then readFraction fields (s.drop 1) (room - 3)
    else if colons then none
    else readFields left false colons fields s (room - 2)

/-- A time of day in the first `room` bytes. -/
def readClock (s : List UInt8) (room : Nat) : Option Clock :=
  readFields 3 true true [] s room

/-- Whether a byte starts a zone. -/
def startsZone (b : UInt8) : Bool := b = byte '+' || b = byte '-' || b = byte 'Z'

/-- The seconds of a time of day. -/
def Clock.seconds (c : Clock) : Nat :=
  (c.fields.getD 0 0 * 60 + c.fields.getD 1 0) * 60 + c.fields.getD 2 0

/-- A time and its zone: the whole of the text. -/
def readTime (s : List UInt8) : Option (Clock × Option Int) := do
  if s.isEmpty then none
  else
    let before := s.takeWhile fun b => !startsZone b
    let zone := s.drop before.length
    let time ← readClock s before.length
    match zone with
    | [] => if time.hasRest then none else some (time, none)
    | mark :: r =>
      if mark = byte 'Z' then
        if headByte r ≠ 0 then none else some (time, some 0)
      else
        let distance ← readClock r r.length
        if distance.hasRest then none
        else
          let ahead : Int :=
            -- a distance of less than a second counts as none
            if distance.seconds = 0 then 0 else distance.seconds * 1000000 + distance.microsecond
          if dayLength ≤ ahead then none
          else some (time, some (if mark = byte '-' then -ahead else ahead))

/-- The number of bytes of the character that starts with `b`. -/
def width (b : UInt8) : Nat :=
  if b.toNat < 0x80 then 1
  else if 0xe0 ≤ b.toNat ∧ b.toNat < 0xf0 then 3
  else if 0xf0 ≤ b.toNat then 4
  else 2

/-- The timestamp of a date and a time, if both are in range. -/
def assemble? (date : Calendar.Date) (time : Clock) (offset : Option Int) : Option Timestamp :=
  let hour := time.fields.getD 0 0
  let minute := time.fields.getD 1 0
  let second := time.fields.getD 2 0
  if date.isValid && hour < 24 && minute < 60 && second < 60 then
    some ⟨date, hour, minute, second, time.microsecond, offset, none⟩
  else none

/-- The characters of a text.  One lone half of a surrogate pair may stand where a date can end; it
counts as the character between date and time. -/
def charsOf? (t : Text) : Option (List Char) :=
  let isHalf := fun (p : Point) => p.char?.isNone
  let points := match [7, 8, 10].find? fun i => t.points[i]?.any isHalf with
    | some i => t.points.set i (.char 'T')
    | none => t.points
  points.mapM Point.char?

/-- The timestamp that a text is the form of. -/
def ofText? (t : Text) : Option Timestamp := do
  let chars ← charsOf? t
  let s := Text.Utf8.encode chars
  if chars.length < 7 then none
  else
    let place ← datePlace s
    let date ← readDate s place
    if place < s.length then
      let r := s.drop place
      let (time, offset) ← readTime (r.drop (width (headByte r)))
      assemble? date time offset
    else assemble? date ⟨[], 0, false⟩ none

end DidRegistry.Timestamp
