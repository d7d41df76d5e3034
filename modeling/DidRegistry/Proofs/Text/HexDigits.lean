import DidRegistry.Text.Basic
import DidRegistry.Text.Digit

/-!
# Runs of hexadecimal digits

A hash and an account are written with a fixed number of hexadecimal digits.  The patterns for them end in
`$`, which is met at the end of a text and also in front of a line feed that ends it.

## Results

* `Text.toNat_lt_of_hexDigit`, `Text.hexDigit?_lt` — digits are ASCII characters, and their values are
  below sixteen.
* `Text.hexRun_iff` — the texts that a pattern for so many digits takes.
* `Text.IsHex.notMem` — what is no digit stands nowhere in a run of them.
-/

set_option autoImplicit false

namespace DidRegistry.Text

/-- Hexadecimal digits are ASCII characters. -/
theorem toNat_lt_of_hexDigit {c : Char} (h : (hexDigit? c).isSome = true) : c.toNat < 0x7f := by
  unfold hexDigit? at h
  split at h
  · rename_i hc
    exact Nat.lt_of_le_of_lt (UInt32.le_iff_toNat_le.mp hc.2) (by decide)
  · split at h
    · rename_i hc
      exact Nat.lt_of_le_of_lt (UInt32.le_iff_toNat_le.mp hc.2) (by decide)
    · split at h
      · rename_i hc
        exact Nat.lt_of_le_of_lt (UInt32.le_iff_toNat_le.mp hc.2) (by decide)
      · cases h

theorem hexDigit?_lt {c : Char} {d : Nat} (h : hexDigit? c = some d) : d < 16 := by
  have hall : ∀ n < 0x7f, ∀ d ∈ hexDigit? (Char.ofNat n), d < 16 := by decide
  have hc := hall c.toNat (toNat_lt_of_hexDigit (by rw [h]; rfl))
  rw [Char.ofNat_toNat] at hc
  exact hc d h

/-- Exactly `n` hexadecimal digits. -/
structure IsHex (n : Nat) (s : List Char) : Prop where
  length : s.length = n
  digits : ∀ c ∈ s, (hexDigit? c).isSome = true

variable {n : Nat} {s : List Char}

theorem IsHex.notMem (h : IsHex n s) {c : Char} (hc : (hexDigit? c).isSome = false) : c ∉ s := by
  intro hmem
  simp [h.digits c hmem] at hc

/-- A pattern for `n` digits takes `n` digits, and a line feed may follow. -/
theorem hexRun_iff :
    ((s.take n).length == n && (s.take n).all (fun c => (hexDigit? c).isSome) &&
        (s.drop n == [] || s.drop n == ['\n'])) = true ↔
      ∃ digits, IsHex n digits ∧ (s = digits ∨ s = digits ++ ['\n']) := by
  simp only [Bool.and_eq_true, Bool.or_eq_true, beq_iff_eq, List.all_eq_true]
  constructor
  · rintro ⟨⟨hlength, hdigits⟩, hrest⟩
    have hs : s = s.take n ++ s.drop n := (List.take_append_drop n s).symm
    refine ⟨s.take n, ⟨hlength, hdigits⟩, ?_⟩
    rcases hrest with hrest | hrest
    · left
      rwa [hrest, List.append_nil] at hs
    · right
      rwa [hrest] at hs
  · rintro ⟨digits, ⟨rfl, hdigits⟩, rfl | rfl⟩
    · simpa using hdigits
    · simpa using hdigits

end DidRegistry.Text
