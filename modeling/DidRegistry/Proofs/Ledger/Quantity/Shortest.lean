import DidRegistry.Proofs.Ledger.Quantity.Forms
import DidRegistry.Proofs.Number
import Mathlib.Data.Nat.Digits.Lemmas

/-!
# The quantity of a number

A number has many quantities, since zeros may stand in front of its digits and letters may be in either
case.  The one that is written is the shortest of them: lower-case digits with no zero in front, and a
single zero for zero.

## Results

* `Text.hexadecimal_lower`, `Text.head?_hexadecimal` — digits are written in lower case, with no zero in
  front.
* `Quantity.length_le_of_denotes` — no other quantity of the number is shorter.
* `Quantity.ofNumber_shortest` — **a number that is not negative is written as its shortest quantity, from
  which it is read back**.
-/

set_option autoImplicit false

namespace DidRegistry

namespace Text

variable {n : Nat}

/-- The digits are in lower case. -/
theorem hexadecimal_lower (n : Nat) : ∀ c ∈ hexadecimal n, c ∈ "0123456789abcdef".toList := by
  have hlower : ∀ d < 16, hexDigit d ∈ "0123456789abcdef".toList := by decide
  intro c hc
  obtain ⟨d, hd, rfl⟩ := mem_hexadecimal hc
  exact hlower d hd

/-- No zero stands in front. -/
theorem head?_hexadecimal (hn : n ≠ 0) : (hexadecimal n).head? ≠ some '0' := by
  have hzero : ∀ d < 16, hexDigit d = '0' → d = 0 := by decide
  have hdigits : Nat.digits 16 n ≠ [] := Nat.digits_ne_nil_iff_ne_zero.mpr hn
  rw [hexadecimal_eq_digits hn, List.head?_reverse, List.getLast?_map, List.getLast?_eq_some_getLast hdigits]
  intro h
  -- the first digit is the highest one of the number
  have hlast := hzero _ (Nat.digits_lt_base (by decide) (List.getLast_mem hdigits)) (Option.some.inj h)
  exact Nat.getLast_digit_ne_zero 16 hn hlast

theorem length_hexadecimal_le {ds : List Nat} (hds : ∀ d ∈ ds, d < 16) (hne : ds ≠ []) :
    (hexadecimal (Nat.ofDigits 16 ds)).length ≤ ds.length := by
  by_cases hn : Nat.ofDigits 16 ds = 0
  · rw [hn, hexadecimal_zero]
    exact List.length_pos_of_ne_nil hne
  · rw [hexadecimal_eq_digits hn, List.length_reverse, List.length_map, Nat.digits_length_le_iff (by decide)]
    exact Nat.ofDigits_lt_base_pow_length (by decide) hds

end Text

namespace Quantity

open Text

variable {n : Nat}

/-- A quantity of a number as it is written: digits in lower case, no zero in front of them unless the
number is zero, and no other quantity of the number is shorter. -/
structure IsShortest (n : Nat) (digits : List Char) : Prop where
  lower : ∀ c ∈ digits, c ∈ "0123456789abcdef".toList
  nonempty : digits ≠ []
  zero : n = 0 → digits = ['0']
  leading : n ≠ 0 → digits.head? ≠ some '0'
  least : ∀ t, Denotes (.str t) (some (.int n)) → digits.length + 2 ≤ t.points.length

/-- No other quantity of a number is shorter than the one that is written. -/
theorem length_le_of_denotes {t : Text} (h : Denotes (.str t) (some (.int n))) :
    (hexadecimal n).length + 2 ≤ t.points.length := by
  generalize hv : Json.str t = v at h
  generalize hm : some (Number.int n) = m at h
  cases h with
  | none => cases hv
  | whole => cases hv
  | @digits u s ds marked nonempty values =>
    cases hv
    obtain rfl : n = Nat.ofDigits 16 ds.reverse := by
      cases hm
      rfl
    have hcount : ds.length = s.length := values.length_eq.symm
    have hpoints : t.points.length = s.length + 2 := by
      have hchars : t.chars.length = t.points.length := List.length_map _
      rw [← hchars, marked, List.length_cons, List.length_cons]
    have hds : ds.reverse ≠ [] := by
      rw [ne_eq, List.reverse_eq_nil_iff, ← List.length_eq_zero_iff, hcount, List.length_eq_zero_iff]
      exact nonempty
    have hdigits : ∀ d ∈ ds.reverse, d < 16 := fun d hd =>
      Numeral.lt_of_forall₂ values d (List.mem_reverse.mp hd)
    have hle := length_hexadecimal_le hdigits hds
    rw [List.length_reverse] at hle
    omega

theorem isShortest_hexadecimal (n : Nat) : IsShortest n (hexadecimal n) where
  lower := hexadecimal_lower n
  nonempty := hexadecimal_ne_nil n
  zero hn := by rw [hn, hexadecimal_zero]
  leading := head?_hexadecimal
  least _ := length_le_of_denotes

theorem ofNumber_natCast (n : Nat) : ofNumber (.int n) = .ok (ofNat n) := by
  have hlt : (Number.int n).lt (.int 0) = false := Number.lt_eq_false_iff.mpr (Int.natCast_nonneg n)
  simp only [ofNumber, hlt, Bool.false_eq_true, if_false, Number.whole?, Int.toNat_natCast]

theorem ofNat_injective : Function.Injective ofNat := fun m n h => by
  have hread := read_ofNat m
  rw [h, read_ofNat] at hread
  cases hread
  rfl

/-- **A number that is not negative is written as its shortest quantity and read back from it**, however
large it is; so no two of them have the same quantity. -/
theorem ofNumber_shortest :
    (∀ n : Nat, ∃ digits : List Char, ofNumber (.int n) = .ok ("0x" ++ String.ofList digits) ∧
      IsShortest n digits ∧ read (.str (Text.ofString ("0x" ++ String.ofList digits))) =
        .ok (some (.int n))) ∧
    Function.Injective fun n : Nat => ofNumber (.int n) := by
  constructor
  · intro n
    exact ⟨hexadecimal n, ofNumber_natCast n, isShortest_hexadecimal n, read_ofNat n⟩
  · intro m n h
    simp only [ofNumber_natCast] at h
    exact ofNat_injective (Except.ok.inj h)

end Quantity

end DidRegistry
