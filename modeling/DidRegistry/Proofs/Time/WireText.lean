import DidRegistry.Proofs.Time.Calendar
import DidRegistry.Time.Reader

/-!
# Timestamps on the wire

A timestamp is written in universal time and in whole seconds, and the year of its text has no leading
zeros.  Where it has four digits, that is for the years 1000 to 9999, the text is read back: as the instant
of the timestamp, rounded down to the second.

## Results

* `Timestamp.instant_ofInstant` — the date and time of an instant name that instant.
* `Timestamp.takeDigits_digitBytes` — digits that were written are read, by induction on the digits.
* `Timestamp.readDate_bytes`, `Timestamp.readTime_bytes` — the two halves of a text.
* `Timestamp.ofText?_wireText` — **a text on the wire is read as the instant, rounded down to the second**.
-/

set_option autoImplicit false

namespace DidRegistry.Timestamp

open Calendar

/-! ## Instants -/

/-- The date and time of an instant name that instant. -/
theorem instant_ofInstant (n : Int) : (ofInstant n).instant = n := by
  unfold ofInstant instant localMicros dayLength
  dsimp only [Option.getD_some]
  rw [Date.ordinal_ofOrdinal]
  omega

theorem ofInstant_clock (n : Int) :
    (ofInstant n).hour < 24 ∧ (ofInstant n).minute < 60 ∧ (ofInstant n).second < 60 := by
  unfold ofInstant dayLength
  dsimp only
  omega

/-- A timestamp as it is on the wire: in universal time and without the fraction of its second. -/
def onWire (t : Timestamp) : Timestamp := { ofInstant t.instant with microsecond := 0 }

/-- Without the fraction of its second a timestamp names the instant that is earlier by the fraction. -/
theorem instant_wholeSecond (t : Timestamp) :
    { t with microsecond := 0 }.instant = t.instant - t.microsecond := by
  simp only [instant, localMicros]
  omega

theorem instant_onWire (t : Timestamp) : t.onWire.instant = t.instant / 1000000 * 1000000 := by
  have hmicros : ((ofInstant t.instant).microsecond : Int) = t.instant % 1000000 := by
    unfold ofInstant dayLength
    dsimp only
    omega
  have hwhole : t.onWire.instant = (ofInstant t.instant).instant - (ofInstant t.instant).microsecond :=
    instant_wholeSecond _
  rw [hwhole, instant_ofInstant, hmicros]
  omega

/-- The year of a timestamp in universal time. -/
def universalYear (t : Timestamp) : Int := (ofInstant t.instant).date.year

/-! ## Digits -/

/-- The two last digits of a number. -/
def twoDigits (n : Nat) : List Nat := [n / 10 % 10, n % 10]

/-- The four last digits of a number. -/
def fourDigits (n : Nat) : List Nat := [n / 1000 % 10, n / 100 % 10, n / 10 % 10, n % 10]

/-- The bytes of digits. -/
def digitBytes (ds : List Nat) : List UInt8 := ds.map fun d => UInt8.ofNat (0x30 + d)

theorem padded_two {n : Nat} (h : n < 100) : padded 2 n = (twoDigits n).map Text.decimalDigit := by
  unfold padded Text.decimal
  by_cases hn : n < 10
  · have h₁ : n / 10 % 10 = 0 := by omega
    have h₂ : n % 10 = n := by omega
    simp only [if_pos hn, twoDigits, h₁, h₂]
    rfl
  · have h₁ : n / 10 % 10 = n / 10 := by omega
    simp only [if_neg hn, Text.decimal.eq_1 (n / 10), if_pos (show n / 10 < 10 by omega), twoDigits, h₁]
    rfl

theorem decimal_four {n : Nat} (hl : 1000 ≤ n) (hu : n ≤ 9999) :
    Text.decimal n = (fourDigits n).map Text.decimalDigit := by
  have h₁ : n / 10 / 10 / 10 = n / 1000 % 10 := by omega
  have h₂ : n / 10 / 10 % 10 = n / 100 % 10 := by omega
  rw [Text.decimal, if_neg (by omega), Text.decimal, if_neg (by omega), Text.decimal, if_neg (by omega),
    Text.decimal, if_pos (by omega), h₁, h₂]
  rfl

theorem encodePoint_decimalDigit :
    ∀ d, d < 10 → Text.Utf8.encodePoint (Text.decimalDigit d).toNat = [UInt8.ofNat (0x30 + d)] := by
  decide

theorem encode_digits {ds : List Nat} (h : ∀ d ∈ ds, d < 10) :
    Text.Utf8.encode (ds.map Text.decimalDigit) = digitBytes ds := by
  induction ds with
  | nil => rfl
  | cons d ds ih =>
    have hd := encodePoint_decimalDigit d (h d List.mem_cons_self)
    have hds := ih fun x hx => h x (List.mem_cons_of_mem _ hx)
    simp only [Text.Utf8.encode, List.map_cons, List.flatMap_cons, digitBytes, hd] at hds ⊢
    rw [hds]
    rfl

theorem digitOf?_digit : ∀ d, d < 10 → digitOf? (UInt8.ofNat (0x30 + d)) = some d := by decide

/-- Digits that were written are read. -/
theorem takeDigits_digitBytes {ds : List Nat} (h : ∀ d ∈ ds, d < 10) (n : Nat) (r : List UInt8) :
    takeDigits ds.length n (digitBytes ds ++ r) = some (ds.foldl (fun n d => n * 10 + d) n, r) := by
  induction ds generalizing n with
  | nil => rfl
  | cons d ds ih =>
    have hd := digitOf?_digit d (h d List.mem_cons_self)
    simp only [digitBytes, List.map_cons, List.cons_append, List.length_cons, takeDigits, hd,
      Option.bind_some, List.foldl_cons]
    exact ih (fun x hx => h x (List.mem_cons_of_mem _ hx)) _

theorem takeDigits_two {n : Nat} (h : n < 100) (r : List UInt8) :
    takeDigits 2 0 (digitBytes (twoDigits n) ++ r) = some (n, r) := by
  have hd : ∀ d ∈ twoDigits n, d < 10 := by simp [twoDigits]; omega
  rw [show 2 = (twoDigits n).length from rfl, takeDigits_digitBytes hd]
  simp only [twoDigits, List.foldl_cons, List.foldl_nil, Option.some.injEq, Prod.mk.injEq, and_true]
  omega

theorem takeDigits_four {n : Nat} (h : n < 10000) (r : List UInt8) :
    takeDigits 4 0 (digitBytes (fourDigits n) ++ r) = some (n, r) := by
  have hd : ∀ d ∈ fourDigits n, d < 10 := by simp [fourDigits]; omega
  rw [show 4 = (fourDigits n).length from rfl, takeDigits_digitBytes hd]
  simp only [fourDigits, List.foldl_cons, List.foldl_nil, Option.some.injEq, Prod.mk.injEq, and_true]
  omega

theorem digit_not_mark : ∀ d, d < 10 → startsZone (UInt8.ofNat (0x30 + d)) = false ∧
    UInt8.ofNat (0x30 + d) ≠ byte '-' ∧ UInt8.ofNat (0x30 + d) ≠ byte 'W' := by
  decide

/-! ## The two halves of a text -/

/-- The bytes of a date. -/
def dateBytes (d : Date) : List UInt8 :=
  digitBytes (fourDigits d.year.toNat) ++ byte '-' :: (digitBytes (twoDigits d.month) ++
    byte '-' :: digitBytes (twoDigits d.day))

/-- The bytes of a time of day in universal time. -/
def clockBytes (hour minute second : Nat) : List UInt8 :=
  digitBytes (twoDigits hour) ++ byte ':' :: (digitBytes (twoDigits minute) ++
    byte ':' :: digitBytes (twoDigits second))

theorem datePlace_bytes (d : Date) (r : List UInt8) : datePlace (dateBytes d ++ r) = some 10 := by
  have hlength : (dateBytes d ++ r).length ≠ 7 := by
    rw [List.length_append, show (dateBytes d).length = 10 from rfl]
    omega
  have hdash : (dateBytes d ++ r).getD 4 0 = byte '-' := rfl
  have hweek : (dateBytes d ++ r).getD 5 0 ≠ byte 'W' :=
    (digit_not_mark (d.month / 10 % 10) (Nat.mod_lt _ (by decide))).2.2
  unfold datePlace
  dsimp only
  rw [if_neg hlength, if_pos hdash, if_neg hweek]

/-- A date is read from its bytes. -/
theorem readDate_bytes {d : Date} (hy : 0 ≤ d.year ∧ d.year < 10000) (hm : d.month < 100) (hd : d.day < 100)
    (r : List UInt8) : readDate (dateBytes d ++ r) 10 = some d := by
  have hw : headByte (digitBytes (twoDigits d.month) ++ byte '-' :: (digitBytes (twoDigits d.day) ++ r)) ≠
      byte 'W' := (digit_not_mark _ (Nat.mod_lt _ (by decide))).2.2
  have hyear : (d.year.toNat : Int) = d.year := Int.toNat_of_nonneg hy.1
  have htext : dateBytes d ++ r = digitBytes (fourDigits d.year.toNat) ++
      byte '-' :: (digitBytes (twoDigits d.month) ++ byte '-' :: (digitBytes (twoDigits d.day) ++ r)) := by
    simp only [dateBytes, List.append_assoc, List.cons_append]
  unfold readDate
  rw [htext, takeDigits_four (by omega)]
  simp only [Option.bind_eq_bind, Option.bind_some, headByte, List.headD_cons, if_true,
    List.drop_succ_cons, List.drop_zero] at hw ⊢
  rw [if_neg hw, takeDigits_two hm]
  simp only [Option.bind_some, List.headD_cons, ne_eq, not_true_eq_false, and_false, if_false,
    List.drop_succ_cons, List.drop_zero]
  rw [takeDigits_two hd]
  simp only [Option.bind_some, hyear]

/-- A time of day is read from its bytes; something more stands behind it. -/
theorem readClock_bytes {hour minute second : Nat} (hh : hour < 100) (hm : minute < 100)
    (hs : second < 100) :
    readClock (clockBytes hour minute second ++ [byte 'Z']) 8 =
      some ⟨[hour, minute, second], 0, true⟩ := by
  have htext : clockBytes hour minute second ++ [byte 'Z'] = digitBytes (twoDigits hour) ++ byte ':' ::
      (digitBytes (twoDigits minute) ++ byte ':' :: (digitBytes (twoDigits second) ++ [byte 'Z'])) := by
    simp only [clockBytes, List.append_assoc, List.cons_append]
  rw [htext]
  simp only [readClock, readFields, takeDigits_two hh, takeDigits_two hm, takeDigits_two hs, headByte,
    Option.bind_eq_bind, Option.bind_some, List.headD_cons, List.drop_succ_cons, List.drop_zero,
    List.nil_append, List.cons_append, decide_true, if_true, Bool.and_true]
  rfl

/-- A time of day in universal time is read from its bytes. -/
theorem readTime_bytes {hour minute second : Nat} (hh : hour < 100) (hm : minute < 100)
    (hs : second < 100) :
    readTime (clockBytes hour minute second ++ [byte 'Z']) =
      some (⟨[hour, minute, second], 0, true⟩, some 0) := by
  have hdigit : ∀ n, startsZone (UInt8.ofNat (0x30 + n % 10)) = false := fun n =>
    (digit_not_mark _ (Nat.mod_lt n (by decide))).1
  have hcolon : startsZone (byte ':') = false := by decide
  have hzone : startsZone (byte 'Z') = true := by decide
  have hbefore : (clockBytes hour minute second ++ [byte 'Z']).takeWhile (fun b => !startsZone b) =
      clockBytes hour minute second := by
    simp only [clockBytes, digitBytes, twoDigits, List.map_cons, List.map_nil, List.cons_append,
      List.nil_append, List.takeWhile_cons, List.takeWhile_nil, hdigit, hcolon, hzone, Bool.not_true,
      Bool.not_false, if_true, Bool.false_eq_true, if_false]
  have hlength : (clockBytes hour minute second).length = 8 := rfl
  unfold readTime
  simp only [hbefore, hlength, readClock_bytes hh hm hs]
  rfl

/-! ## Texts -/

theorem charsOf?_ofChars (cs : List Char) : charsOf? (Text.ofChars cs) = some cs := by
  have hnone : ([7, 8, 10].find? fun i =>
      (Text.ofChars cs).points[i]?.any fun p => p.char?.isNone) = none := by
    refine List.find?_eq_none.mpr fun i _ => ?_
    simp only [Text.ofChars, List.getElem?_map]
    cases cs[i]? <;> simp [Point.char?]
  unfold charsOf?
  simp only [hnone]
  exact Text.wellFormed?_ofChars cs

theorem chars_ne_nil_of_ofText? {s : Text} {t : Timestamp} (h : ofText? s = some t) : s.chars ≠ [] := by
  obtain ⟨points⟩ := s
  intro hs
  obtain rfl : points = [] := List.map_eq_nil_iff.mp hs
  cases h

/-- The characters of a timestamp on the wire. -/
def wireChars (u : Timestamp) : List Char :=
  Text.decimal u.date.year.toNat ++ '-' :: padded 2 u.date.month ++ '-' :: padded 2 u.date.day ++
    'T' :: clock u.hour u.minute u.second 0 ++ ['Z']

/-- The bytes of a timestamp on the wire. -/
def wireBytes (u : Timestamp) : List UInt8 :=
  dateBytes u.date ++ byte 'T' :: (clockBytes u.hour u.minute u.second ++ [byte 'Z'])

/-- The fields of a timestamp have as many digits as they are written with. -/
structure FitsWire (u : Timestamp) : Prop where
  year : 1000 ≤ u.date.year ∧ u.date.year ≤ 9999
  date : u.date.isValid = true
  hour : u.hour < 24
  minute : u.minute < 60
  second : u.second < 60

variable {u : Timestamp}

theorem FitsWire.month_day (h : u.FitsWire) : u.date.month < 100 ∧ u.date.day < 100 := by
  have hv := h.date
  simp only [Date.isValid, Bool.and_eq_true, decide_eq_true_eq] at hv
  have hd : daysIn u.date.year u.date.month ≤ 31 := by
    unfold daysIn
    split
    · split <;> decide
    all_goals decide
  omega

theorem wireChars_eq (h : u.FitsWire) :
    wireChars u = (fourDigits u.date.year.toNat).map Text.decimalDigit ++
      '-' :: ((twoDigits u.date.month).map Text.decimalDigit ++
      '-' :: ((twoDigits u.date.day).map Text.decimalDigit ++
      'T' :: ((twoDigits u.hour).map Text.decimalDigit ++
      ':' :: ((twoDigits u.minute).map Text.decimalDigit ++
      ':' :: ((twoDigits u.second).map Text.decimalDigit ++ ['Z']))))) := by
  obtain ⟨hm, hd⟩ := h.month_day
  have hy := h.year
  have hh := h.hour
  have hn := h.minute
  have hs := h.second
  unfold wireChars clock
  rw [decimal_four (by omega) (by omega), padded_two hm, padded_two hd, padded_two (by omega),
    padded_two (by omega), padded_two (by omega)]
  simp only [if_true, List.append_nil, List.append_assoc, List.cons_append]

theorem encode_wireChars (h : u.FitsWire) : Text.Utf8.encode (wireChars u) = wireBytes u := by
  have two : ∀ n, Text.Utf8.encode ((twoDigits n).map Text.decimalDigit) = digitBytes (twoDigits n) :=
    fun n => encode_digits (by simp [twoDigits]; omega)
  have four : ∀ n, Text.Utf8.encode ((fourDigits n).map Text.decimalDigit) = digitBytes (fourDigits n) :=
    fun n => encode_digits (by simp [fourDigits]; omega)
  have hcons : ∀ c s, Text.Utf8.encode (c :: s) = Text.Utf8.encodePoint c.toNat ++ Text.Utf8.encode s :=
    fun _ _ => rfl
  have happend : ∀ s r, Text.Utf8.encode (s ++ r) = Text.Utf8.encode s ++ Text.Utf8.encode r :=
    fun _ _ => List.flatMap_append
  rw [wireChars_eq h]
  simp only [happend, hcons, two, four, wireBytes, dateBytes, clockBytes, List.append_assoc,
    List.cons_append]
  rfl

theorem ofText?_wireChars (h : u.FitsWire) :
    ofText? (Text.ofChars (wireChars u)) =
      some { u with microsecond := 0, offset := some 0, region := none } := by
  obtain ⟨hm, hd⟩ := h.month_day
  have hy := h.year
  have hh := h.hour
  have hn := h.minute
  have hs := h.second
  have hchars : ¬(wireChars u).length < 7 := by
    rw [wireChars_eq h]
    simp [fourDigits, twoDigits]
  have hdate : readDate (wireBytes u) 10 = some u.date :=
    readDate_bytes ⟨by omega, by omega⟩ hm hd _
  have hrest : (wireBytes u).drop 10 =
      byte 'T' :: (clockBytes u.hour u.minute u.second ++ [byte 'Z']) := rfl
  have hlength : 10 < (wireBytes u).length := by
    simp [wireBytes, dateBytes, clockBytes, digitBytes, fourDigits, twoDigits]
  have hwidth : width (byte 'T') = 1 := by decide
  have htime := @readTime_bytes u.hour u.minute u.second
    (by omega) (by omega) (by omega)
  unfold ofText?
  simp only [charsOf?_ofChars, Option.bind_eq_bind, Option.bind_some, if_neg hchars, encode_wireChars h]
  rw [show datePlace (wireBytes u) = some 10 from datePlace_bytes u.date _]
  simp only [Option.bind_some, hdate, if_pos hlength, hrest, headByte, List.headD_cons, hwidth,
    List.drop_succ_cons, List.drop_zero, htime]
  simp [assemble?, h.date, h.hour, h.minute, h.second]

/-- **A text on the wire is read as the instant, rounded down to the second**, in every year that is written
with four digits. -/
theorem ofText?_wireText {t : Timestamp} (hz : t.hasZone = true)
    (hy : 1000 ≤ t.universalYear ∧ t.universalYear ≤ 9999) :
    ∃ s, t.wireText = .ok s ∧ ofText? s = some t.onWire := by
  have hdate : (ofInstant t.instant).date.isValid = true :=
    Date.isValid_ofOrdinal.mpr ⟨Int.le_trans (by decide) hy.1, hy.2⟩
  obtain ⟨hour, minute, second⟩ := ofInstant_clock t.instant
  have hfits : (ofInstant t.instant).FitsWire := ⟨hy, hdate, hour, minute, second⟩
  refine ⟨String.ofList (wireChars (ofInstant t.instant)), ?_, ?_⟩
  · unfold wireText toUniversal?
    rw [if_neg (by simp [hz])]
    simp only [hdate, if_true]
    rfl
  · rw [Text.ofString, String.toList_ofList, ofText?_wireChars hfits]
    rfl

end DidRegistry.Timestamp
