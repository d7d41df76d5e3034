import DidRegistry.Ledger.CallData
import DidRegistry.Platform.Usual
import DidRegistry.Proofs.Ledger.Address
import DidRegistry.Proofs.Settings
import DidRegistry.Proofs.Text.HexDigits

/-!
# Spellings of accounts

A checksum in the case of the letters guards an account against being mistyped.  A strict rule for texts that
name accounts heeds it: `0x` or nothing, and forty digits whose letters are all in one case or carry the
checksum.  The pattern for contracts in the settings is another rule: it takes letters in any case, and a line
feed after the digits.

## Results

* `Address.isWritten_toText` — the text of an account meets the strict rule.
* `Address.isValid_of_ofJson?` — what is named under a rule that asks for forty digits is an account.
* `Address.isWritten_iff_of_fits`, `Address.isForty_iff_of_fits` — what is missing between the pattern
  and the two rules for accounts.
-/

set_option autoImplicit false

namespace DidRegistry.Address

/-- The letters are all in one case, or they carry the checksum. -/
def IsCased (digits : List Char) : Prop :=
  digits.map Char.toLower = digits ∨ digits.map Char.toUpper = digits ∨
    checksummed (digits.map Char.toLower) = digits

instance (digits : List Char) : Decidable (IsCased digits) := inferInstanceAs (Decidable (_ ∨ _ ∨ _))

/-- A text names an account under the strict rule: `0x` or nothing, and forty hexadecimal digits whose letters
are in one case or carry the checksum. -/
structure IsWritten (s : List Char) : Prop where
  length : (CallData.dropMark s).length = 40
  digits : ∀ c ∈ CallData.dropMark s, (Text.hexDigit? c).isSome = true
  cased : IsCased (CallData.dropMark s)

theorem isWritten_iff (s : List Char) :
    IsWritten s ↔ (CallData.dropMark s).length = 40 ∧
      (CallData.dropMark s).all (fun c => (Text.hexDigit? c).isSome) = true ∧ IsCased (CallData.dropMark s) :=
  ⟨fun h => ⟨h.length, List.all_eq_true.mpr h.digits, h.cased⟩,
    fun h => ⟨h.1, List.all_eq_true.mp h.2.1, h.2.2⟩⟩

instance (s : List Char) : Decidable (IsWritten s) := decidable_of_iff' _ (isWritten_iff s)

theorem ofJson?_isSome [Platform] {t : Text} :
    (ofJson? (.str t)).isSome = true ↔ Platform.names t.chars = true := by
  unfold ofJson?
  split <;> simp_all

/-! ## The strict rule -/

/-- The text of an account meets the strict rule. -/
theorem isWritten_toText {a : Address} (h : a.IsValid) : IsWritten (Text.ofString a.toText).chars := by
  obtain ⟨hlength, hall, hback⟩ := checksummed_digits h
  have hdrop : CallData.dropMark (Text.ofString a.toText).chars = checksummed a.digits := by
    rw [chars_toText]
    rfl
  constructor
  · rw [hdrop, hlength]
  · rw [hdrop]
    exact List.all_eq_true.mp hall
  · rw [hdrop]
    refine .inr (.inr ?_)
    rw [hback]

theorem dropMark_eq {s : List Char} (h : IsWritten s) : dropMark s = CallData.dropMark s := by
  unfold dropMark
  split
  · rename_i x r
    split
    · rename_i hx
      rcases hx with rfl | rfl
      · rfl
      · -- a mark in upper case would have to be a digit
        exact absurd (h.digits 'X' (.tail _ (.head _))) (by decide)
    · rename_i hx
      rw [not_or] at hx
      unfold CallData.dropMark
      split
      · rename_i r' he
        exact absurd (List.cons.inj (List.cons.inj he).2).1 hx.1
      · rfl
  · rename_i hs
    unfold CallData.dropMark
    split
    · exact absurd rfl (hs _ _)
    · rfl

theorem IsWritten.isForty {s : List Char} (h : IsWritten s) : isForty s = true := by
  rw [Address.isForty, dropMark_eq h, h.length, List.all_eq_true.mpr h.digits]
  rfl

/-- What is named under a rule that asks for forty digits is an account. -/
theorem isValid_of_ofJson? [Platform] (hrule : ∀ s, Platform.names s = true → isForty s = true)
    {v : Json} {a : Address} (h : ofJson? v = some a) : a.IsValid := by
  unfold ofJson? at h
  split at h
  · rename_i t
    split at h
    · rename_i ht
      have hforty := hrule _ ht
      simp only [isForty, Bool.and_eq_true, beq_iff_eq, List.all_eq_true] at hforty
      cases h
      refine ⟨by rw [List.length_map, hforty.1], fun c hc => ?_⟩
      obtain ⟨d, hd, rfl⟩ := List.mem_map.mp hc
      exact isDigit_toLower (hforty.2 d hd)
    · cases h
  · cases h

/-! ## The pattern for contracts -/

/-- What fits the pattern is `0x` and forty digits, and a line feed may follow. -/
theorem fitsContract_iff {s : List Char} :
    Setting.fitsContract s = true ↔ ∃ digits, digits.length = 40 ∧
      (∀ c ∈ digits, (Text.hexDigit? c).isSome = true) ∧
        (s = '0' :: 'x' :: digits ∨ s = '0' :: 'x' :: (digits ++ ['\n'])) := by
  constructor
  · intro h
    unfold Setting.fitsContract at h
    split at h
    · obtain ⟨digits, hex, rfl | rfl⟩ := Text.hexRun_iff.mp h
      · exact ⟨_, hex.length, hex.digits, .inl rfl⟩
      · exact ⟨_, hex.length, hex.digits, .inr rfl⟩
    · cases h
  · rintro ⟨digits, hlength, hdigits, rfl | rfl⟩
    · exact Text.hexRun_iff.mpr ⟨digits, ⟨hlength, hdigits⟩, .inl rfl⟩
    · exact Text.hexRun_iff.mpr ⟨digits, ⟨hlength, hdigits⟩, .inr rfl⟩

theorem getLast?_digits {digits : List Char} (h : ∀ c ∈ digits, (Text.hexDigit? c).isSome = true) :
    ('0' :: 'x' :: digits).getLast? ≠ some '\n' := by
  intro hlast
  rcases List.mem_cons.mp (List.mem_of_getLast? hlast) with hc | hc
  · cases hc
  rcases List.mem_cons.mp hc with hc | hc
  · cases hc
  exact absurd (h _ hc) (by decide)

theorem getLast?_lineFeed (digits : List Char) :
    ('0' :: 'x' :: (digits ++ ['\n'])).getLast? = some '\n' := by
  rw [List.getLast?_cons_cons, ← List.cons_append, List.getLast?_concat]

variable {s : List Char}

/-- A text that fits the pattern meets the strict rule when no line feed follows and the letters are in one
case or carry the checksum. -/
theorem isWritten_iff_of_fits (h : Setting.fitsContract s = true) :
    IsWritten s ↔ s.getLast? ≠ some '\n' ∧ IsCased (s.drop 2) := by
  obtain ⟨digits, hlength, hdigits, rfl | rfl⟩ := fitsContract_iff.mp h
  · exact ⟨fun hw => ⟨getLast?_digits hdigits, hw.cased⟩, fun hc => ⟨hlength, hdigits, hc.2⟩⟩
  · refine ⟨fun hw => ?_, fun hc => absurd (getLast?_lineFeed digits) hc.1⟩
    have htotal : (digits ++ ['\n']).length = 40 := hw.length
    rw [List.length_append, hlength] at htotal
    cases htotal

/-- When the case of the letters does not matter, it names an account when no line feed follows. -/
theorem isForty_iff_of_fits (h : Setting.fitsContract s = true) :
    isForty s = true ↔ s.getLast? ≠ some '\n' := by
  obtain ⟨digits, hlength, hdigits, rfl | rfl⟩ := fitsContract_iff.mp h
  · have hall : digits.all (fun c => (Text.hexDigit? c).isSome) = true := List.all_eq_true.mpr hdigits
    refine ⟨fun _ => getLast?_digits hdigits, fun _ => ?_⟩
    simp [isForty, dropMark, hlength, hall]
  · refine ⟨fun hn => ?_, fun hc => absurd (getLast?_lineFeed digits) hc⟩
    simp [isForty, dropMark, hlength] at hn

end DidRegistry.Address
