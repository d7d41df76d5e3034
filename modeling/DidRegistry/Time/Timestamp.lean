import DidRegistry.Text.Digit
import DidRegistry.Time.Calendar

/-!
# Timestamps

The block time of a transaction: a calendar day, a time of the day down to the microsecond, and the
distance of the local time from universal time.  On the wire a timestamp is written in universal time,
without the fraction of its second.

The distance may be that of a region, whose rules put its clocks forward and back.  Timestamps of one
region compare by what its clocks show, any others by the instants that they name.
-/

set_option autoImplicit false

namespace DidRegistry

/-- A local date and time and, if it is known, the distance of its zone from universal time. -/
structure Timestamp where
  date : Calendar.Date
  hour : Nat
  minute : Nat
  second : Nat
  microsecond : Nat
  /-- Microseconds that local time is ahead of universal time. -/
  offset : Option Int
  /-- The region whose rules say so, none when the distance is fixed. -/
  region : Option String
deriving DecidableEq, Repr

namespace Timestamp

/-- The microseconds of a day. -/
def dayLength : Int := 86400000000

/-- The local time in microseconds, counted from the start of day 0. -/
def localMicros (t : Timestamp) : Int :=
  t.date.ordinal * dayLength +
    (((t.hour * 60 + t.minute) * 60 + t.second) * 1000000 + t.microsecond : Nat)

/-- The instant in microseconds; a timestamp without a zone counts as universal time. -/
def instant (t : Timestamp) : Int := t.localMicros - t.offset.getD 0

/-- Whether the first of two timestamps counts as the earlier one. -/
def isBefore (t s : Timestamp) : Bool :=
  if t.region.isSome ∧ t.region = s.region then t.localMicros < s.localMicros
  else t.instant < s.instant

/-- Whether the zone is known. -/
def hasZone (t : Timestamp) : Bool := t.offset.isSome

/-- The date and time of an instant in universal time. -/
def ofInstant (n : Int) : Timestamp :=
  let date := Calendar.Date.ofOrdinal (n / dayLength)
  let micros := (n % dayLength).toNat
  let seconds := micros / 1000000
  ⟨date, seconds / 3600, seconds / 60 % 60, seconds % 60, micros % 1000000, some 0, none⟩

/-- The timestamp in universal time; none when its year would not be one of 1 to 9999. -/
def toUniversal? (t : Timestamp) : Option Timestamp :=
  let u := ofInstant t.instant
  if u.date.isValid then some u else none

/-- A number with at least `width` digits. -/
def padded (width n : Nat) : List Char :=
  let ds := Text.decimal n
  List.replicate (width - ds.length) '0' ++ ds

/-- The text of a time of day, with the fraction when there is one. -/
def clock (hour minute second microsecond : Nat) : List Char :=
  padded 2 hour ++ ':' :: padded 2 minute ++ ':' :: padded 2 second ++
    (if microsecond = 0 then [] else '.' :: padded 6 microsecond)

/-- The text of a distance from universal time. -/
def zone (offset : Int) : List Char :=
  let micros := offset.natAbs
  let seconds := micros / 1000000
  (if offset < 0 then '-' else '+') :: (padded 2 (seconds / 3600) ++ ':' :: padded 2 (seconds / 60 % 60) ++
    (if seconds % 60 = 0 ∧ micros % 1000000 = 0 then []
     else ':' :: padded 2 (seconds % 60) ++
      (if micros % 1000000 = 0 then [] else '.' :: padded 6 (micros % 1000000))))

/-- The text of a timestamp in its own zone. -/
def localText (t : Timestamp) : String :=
  String.ofList (padded 4 t.date.year.toNat ++ '-' :: padded 2 t.date.month ++ '-' ::
    padded 2 t.date.day ++ 'T' :: clock t.hour t.minute t.second t.microsecond ++
      (match t.offset with
        | some o => zone o
        | none => []))

/-- Why a timestamp has no text on the wire. -/
inductive WireError where
  /-- Its year in universal time is not one of 1 to 9999. -/
  | outOfRange
  /-- It has no zone and lies on the very first day: what the local zone was is told from the day
  before. -/
  | tooEarly
deriving DecidableEq, Repr

/-- The text of a timestamp on the wire: universal time, whole seconds, the year as it is. -/
def wireText (t : Timestamp) : Except WireError String :=
  if !t.hasZone ∧ t.date = ⟨1, 1, 1⟩ then .error .tooEarly
  else
    match t.toUniversal? with
    | none => .error .outOfRange
    | some u =>
      .ok (String.ofList (Text.decimal u.date.year.toNat ++ '-' :: padded 2 u.date.month ++ '-' ::
        padded 2 u.date.day ++ 'T' :: clock u.hour u.minute u.second 0 ++ ['Z']))

end Timestamp

end DidRegistry
