import DidRegistry.Ledger.Quantity
import DidRegistry.Proofs.Text.Numeral

/-!
# Quantities are read back

A quantity is `0x` and the hexadecimal digits of a whole number, and reading it gives that number, however
large it is.

## Results

* `Quantity.isWritten_ofNat` — a quantity is `0x` and hexadecimal digits.
* `Quantity.read_str_iff` — what a text is read as.
* `Quantity.read_ofNat` — **a quantity is read back as the number that it was written for**.
-/

set_option autoImplicit false

namespace DidRegistry

namespace Quantity

open Text Text.Numeral

variable {t : Text} {n : Option Number}

theorem chars_ofNat (n : Nat) : (Text.ofString (ofNat n)).chars = '0' :: 'x' :: hexadecimal n := by
  simp only [ofNat, Text.ofString, Text.chars_ofChars, String.toList_append, String.toList_ofList]
  rfl

/-- A text is `0x` and hexadecimal digits. -/
def IsWritten (t : Text) : Prop :=
  ∃ digits, t.chars = '0' :: 'x' :: digits ∧ digits ≠ [] ∧ ∀ c ∈ digits, (hexDigit? c).isSome

theorem isWritten_ofNat (n : Nat) : IsWritten (ofNat n) := by
  obtain ⟨ds, hvalues, -⟩ := exists_values n
  exact ⟨hexadecimal n, chars_ofNat n, hexadecimal_ne_nil n, isSome_of_forall₂ hvalues⟩

/-- **What a text is read as.** -/
theorem read_str_iff : read (.str t) = .ok n ↔
    ∃ s ds, t.chars = '0' :: 'x' :: s ∧ Spells s ds ∧ n = some (.int (Nat.ofDigits 16 ds.reverse : Nat)) := by
  unfold read
  dsimp only
  split
  · rename_i s ht
    constructor
    · intro h
      split at h
      · rename_i k hk
        cases h
        obtain ⟨ds, hds, rfl⟩ := (hexadecimal?_eq_some_iff ht).mp hk
        exact ⟨s, ds, ht, hds, rfl⟩
      · cases h
    · rintro ⟨u, ds, hu, hds, rfl⟩
      rw [(hexadecimal?_eq_some_iff hu).mpr ⟨ds, hds, rfl⟩]
  · rename_i hnot
    have hnone : ∀ s, t.chars ≠ '0' :: 'x' :: s := hnot
    simp [hnone]

/-- **A quantity is read back as the number that it was written for.** -/
theorem read_ofNat (n : Nat) : read (.str (ofNat n)) = .ok (some (.int n)) := by
  obtain ⟨ds, hvalues, hn⟩ := exists_values n
  refine read_str_iff.mpr ⟨hexadecimal n, ds, chars_ofNat n, ?_, by rw [hn]⟩
  exact spells_of_forall₂ hvalues (hexadecimal_ne_nil n)

end Quantity

end DidRegistry
