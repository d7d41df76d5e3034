import DidRegistry.Time.Calendar

/-!
# Days and their numbers

The day with a number has that number, for every number: the calendar skips no day and counts none twice.

## Results

* `Calendar.monthFrom_eq` — the walk through the months of a year, by induction on the months that are left.
* `Calendar.Date.ordinal_ofOrdinal` — **the day with a number has that number**.
* `Calendar.Date.isValid_ofOrdinal` — its month and its day are in range.
-/

set_option autoImplicit false

namespace DidRegistry.Calendar

/-- The number of days of a year. -/
def daysOf (year : Int) : Nat := if isLeap year then 366 else 365

theorem isLeap_iff {year : Int} :
    isLeap year = true ↔ year % 4 = 0 ∧ (year % 100 ≠ 0 ∨ year % 400 = 0) := by
  simp [isLeap]

theorem daysOf_eq (year : Int) :
    daysOf year = 366 ∧ year % 4 = 0 ∧ (year % 100 ≠ 0 ∨ year % 400 = 0) ∨
      daysOf year = 365 ∧ ¬(year % 4 = 0 ∧ (year % 100 ≠ 0 ∨ year % 400 = 0)) := by
  unfold daysOf
  split
  · rename_i h
    exact .inl ⟨rfl, isLeap_iff.mp h⟩
  · rename_i h
    exact .inr ⟨rfl, fun hl => h (isLeap_iff.mpr hl)⟩

/-! ## Months -/

theorem daysBeforeMonth_succ (year : Int) {month : Nat} (h : 1 ≤ month) :
    daysBeforeMonth year (month + 1) = daysBeforeMonth year month + daysIn year month := by
  obtain ⟨m, rfl⟩ : ∃ m, month = m + 1 := ⟨month - 1, by omega⟩
  rfl

theorem daysBeforeMonth_thirteen (year : Int) : daysBeforeMonth year 13 = daysOf year := by
  unfold daysOf
  simp only [daysBeforeMonth, daysIn]
  split <;> rfl

/-- The walk through the months stops at the month that has the day, if there are months enough. -/
theorem monthFrom_eq {year : Int} (left : Nat) {month n : Nat} (hm : 1 ≤ month) (hn : 1 ≤ n)
    (hr : daysBeforeMonth year month + n ≤ daysBeforeMonth year (month + left + 1)) :
    ∃ m k, monthFrom year left month n = (m, k) ∧ month ≤ m ∧ m ≤ month + left ∧ 1 ≤ k ∧
      k ≤ daysIn year m ∧ daysBeforeMonth year m + k = daysBeforeMonth year month + n := by
  induction left generalizing month n with
  | zero =>
    rw [Nat.add_zero, daysBeforeMonth_succ year hm] at hr
    exact ⟨month, n, rfl, Nat.le_refl _, Nat.le_refl _, hn, by omega, rfl⟩
  | succ left ih =>
    unfold monthFrom
    have hnext := daysBeforeMonth_succ year hm
    by_cases hd : n ≤ daysIn year month
    · exact ⟨month, n, if_pos hd, Nat.le_refl _, by omega, hn, hd, rfl⟩
    · rw [if_neg hd]
      have he : month + 1 + left + 1 = month + (left + 1) + 1 := by omega
      obtain ⟨m, k, hmk, hl, hu, hk, hkd, hsum⟩ :=
        @ih (month + 1) (n - daysIn year month) (by omega) (by omega) (by rw [he, hnext]; omega)
      exact ⟨m, k, hmk, by omega, by omega, hk, hkd, by omega⟩

theorem monthFrom_of_le {year : Int} {n : Nat} (hn : 1 ≤ n) (hd : n ≤ daysOf year) :
    ∃ m k, monthFrom year 11 1 n = (m, k) ∧ 1 ≤ m ∧ m ≤ 12 ∧ 1 ≤ k ∧ k ≤ daysIn year m ∧
      daysBeforeMonth year m + k = n := by
  have hr : daysBeforeMonth year 1 + n ≤ daysBeforeMonth year 13 := by
    rw [daysBeforeMonth_thirteen year]
    simpa [daysBeforeMonth] using hd
  simpa [daysBeforeMonth] using monthFrom_eq 11 (Nat.le_refl 1) hn hr

/-! ## Years -/

/-- The year that a day with a number belongs to, and the number of days of that year before it. -/
theorem exists_year (n : Int) :
    ∃ (year : Int) (d : Nat), daysBeforeYear year + d + 1 = n ∧ d < daysOf year ∧
      Date.ofOrdinal n = ⟨year, (monthFrom year 11 1 (d + 1)).1, (monthFrom year 11 1 (d + 1)).2⟩ := by
  -- whole cycles of 400, 100, 4 years and 1 year before the day, and the days after the last one
  generalize ha : (n - 1) / 146097 = a
  generalize hd₀ : (n - 1) % 146097 = d₀
  generalize hb : min (d₀ / 36524) 3 = b
  generalize hc : (d₀ - b * 36524) / 1461 = c
  generalize he : min ((d₀ - b * 36524 - c * 1461) / 365) 3 = e
  generalize hd : d₀ - b * 36524 - c * 1461 - e * 365 = d
  have hb' : 0 ≤ b ∧ b ≤ 3 := by omega
  have hc' : 0 ≤ c ∧ c ≤ 24 := by omega
  have he' : 0 ≤ e ∧ e ≤ 3 := by omega
  refine ⟨a * 400 + b * 100 + c * 4 + e + 1, d.toNat, ?_, ?_, ?_⟩
  · have h4 : (a * 400 + b * 100 + c * 4 + e + 1 - 1) / 4 = a * 100 + b * 25 + c := by omega
    have h100 : (a * 400 + b * 100 + c * 4 + e + 1 - 1) / 100 = a * 4 + b := by omega
    have h400 : (a * 400 + b * 100 + c * 4 + e + 1 - 1) / 400 = a := by omega
    unfold daysBeforeYear
    dsimp only
    rw [h4, h100, h400]
    omega
  · rcases daysOf_eq (a * 400 + b * 100 + c * 4 + e + 1) with ⟨hl, -⟩ | ⟨hl, hn⟩ <;> omega
  · unfold Date.ofOrdinal
    simp only [ha, hd₀, hb, hc, he, hd]

namespace Date

theorem ofOrdinal_spec (n : Int) :
    (ofOrdinal n).ordinal = n ∧ 1 ≤ (ofOrdinal n).month ∧ (ofOrdinal n).month ≤ 12 ∧
      1 ≤ (ofOrdinal n).day ∧ (ofOrdinal n).day ≤ daysIn (ofOrdinal n).year (ofOrdinal n).month := by
  obtain ⟨year, d, hn, hd, he⟩ := exists_year n
  obtain ⟨m, k, hmk, hm, hm', hk, hk', hsum⟩ := @monthFrom_of_le year (d + 1) (by omega) (by omega)
  rw [he, hmk]
  refine ⟨?_, hm, hm', hk, hk'⟩
  unfold ordinal
  dsimp only
  omega

/-- **The day with a number has that number.** -/
theorem ordinal_ofOrdinal (n : Int) : (ofOrdinal n).ordinal = n := (ofOrdinal_spec n).1

/-- A day that has a number is one of the calendar, as soon as its year is. -/
theorem isValid_ofOrdinal {n : Int} :
    (ofOrdinal n).isValid = true ↔ 1 ≤ (ofOrdinal n).year ∧ (ofOrdinal n).year ≤ 9999 := by
  obtain ⟨-, hm, hm', hk, hk'⟩ := ofOrdinal_spec n
  simp only [isValid, Bool.and_eq_true, decide_eq_true_eq]
  constructor
  · rintro ⟨⟨⟨⟨⟨hl, hu⟩, -⟩, -⟩, -⟩, -⟩
    exact ⟨hl, hu⟩
  · rintro ⟨hl, hu⟩
    exact ⟨⟨⟨⟨⟨hl, hu⟩, hm⟩, hm'⟩, hk⟩, hk'⟩

end Date

end DidRegistry.Calendar
