import DidRegistry.Platform.Usual
import DidRegistry.Proofs.Text.HexDigits

/-!
# Accounts and their texts

The checksum of an account changes the case of its letters and nothing else, so that the text of an
account names that account.

## Results

* `Address.toLower_checkedDigit` — the checksum changes the case of a digit and nothing else.
* `Address.ofJson?_toText` — **an account is named by its text**.
-/

set_option autoImplicit false

namespace DidRegistry

theorem Keccak.length_hash (message : List UInt8) : (hash message).length = 32 := by
  simp only [hash, laneBytes, List.length_flatMap, List.length_map, List.length_range]
  rfl

theorem Text.Hex.length_encode (bytes : List UInt8) : (encode bytes).length = 2 * bytes.length := by
  induction bytes with
  | nil => rfl
  | cons b r ih =>
    have hc : encode (b :: r) = encodeByte b ++ encode r := rfl
    rw [hc, List.length_append, ih, List.length_cons]
    simp only [encodeByte, List.length_cons, List.length_nil]
    omega

namespace Address

/-- A lower-case hexadecimal digit. -/
def IsDigit (c : Char) : Prop := (Text.hexDigit? c).isSome = true ∧ c.toLower = c

/-- An account that a text can name: it has forty lower-case hexadecimal digits. -/
structure IsValid (a : Address) : Prop where
  length : a.digits.length = 40
  digits : ∀ c ∈ a.digits, IsDigit c

theorem isDigit_toLower {c : Char} (h : (Text.hexDigit? c).isSome = true) : IsDigit c.toLower := by
  have hlower : ∀ n < 0x7f, (Text.hexDigit? (Char.ofNat n)).isSome = true →
      (Text.hexDigit? (Char.ofNat n).toLower).isSome = true ∧
        (Char.ofNat n).toLower.toLower = (Char.ofNat n).toLower := by decide
  have hl := hlower c.toNat (Text.toNat_lt_of_hexDigit h)
  rw [Char.ofNat_toNat] at hl
  exact hl h

/-- The checksum changes the case of a digit and nothing else. -/
theorem toLower_checkedDigit {c : Char} (h : IsDigit c) (mark : Char) :
    (Text.hexDigit? (checkedDigit c mark)).isSome = true ∧ (checkedDigit c mark).toLower = c := by
  have hupper : ∀ n < 0x7f, (Text.hexDigit? (Char.ofNat n)).isSome = true →
      (Text.hexDigit? (Char.ofNat n).toUpper).isSome = true ∧
        (Char.ofNat n).toUpper.toLower = (Char.ofNat n).toLower := by decide
  have hu := hupper c.toNat (Text.toNat_lt_of_hexDigit h.1)
  rw [Char.ofNat_toNat] at hu
  unfold checkedDigit
  split
  · exact ⟨(hu h.1).1, (hu h.1).2.trans h.2⟩
  · exact h

/-- Digits under a checksum that is long enough are hexadecimal digits, and the same ones. -/
theorem zipWith_checkedDigit {digits marks : List Char} (h : ∀ c ∈ digits, IsDigit c)
    (hl : digits.length ≤ marks.length) :
    ((List.zipWith checkedDigit digits marks).all fun c => (Text.hexDigit? c).isSome) = true ∧
      (List.zipWith checkedDigit digits marks).map Char.toLower = digits := by
  induction digits generalizing marks with
  | nil => simp
  | cons c r ih =>
    cases marks with
    | nil => cases hl
    | cons mark marks =>
      obtain ⟨hall, hback⟩ := ih (fun d hd => h d (List.mem_cons_of_mem _ hd)) (Nat.le_of_succ_le_succ hl)
      obtain ⟨hc, hlow⟩ := toLower_checkedDigit (h c List.mem_cons_self) mark
      exact ⟨by simp [hc, hall], by simp [hlow, hback]⟩

/-- The digits of an account under its checksum. -/
def checksummed (digits : List Char) : List Char :=
  List.zipWith checkedDigit digits (Text.Hex.encode (Keccak.hash (Text.Utf8.encode digits)))

theorem chars_toText (a : Address) :
    (Text.ofString a.toText).chars = '0' :: 'x' :: checksummed a.digits := by
  simp only [toText, Text.ofString, Text.chars_ofChars, String.toList_append, String.toList_ofList]
  rfl

/-- The digits of an account under its checksum are forty hexadecimal digits, and the same ones. -/
theorem checksummed_digits {a : Address} (h : a.IsValid) :
    (checksummed a.digits).length = 40 ∧
      ((checksummed a.digits).all fun c => (Text.hexDigit? c).isSome) = true ∧
        (checksummed a.digits).map Char.toLower = a.digits := by
  have hmarks : (Text.Hex.encode (Keccak.hash (Text.Utf8.encode a.digits))).length = 64 := by
    rw [Text.Hex.length_encode, Keccak.length_hash]
  refine ⟨?_, zipWith_checkedDigit h.digits ?_⟩
  · rw [checksummed, List.length_zipWith, h.length, hmarks]
    rfl
  · rw [h.length, hmarks]
    decide

/-- **A text of an account that names one names that account.** -/
theorem ofJson?_toText [Platform] {a : Address} (h : a.IsValid)
    (hnamed : Platform.names (Text.ofString a.toText).chars = true) : ofJson? (.str a.toText) = some a := by
  obtain ⟨-, -, hback⟩ := checksummed_digits h
  rw [ofJson?, if_pos hnamed, chars_toText, dropMark, if_pos (.inl rfl), hback]

theorem isForty_toText {a : Address} (h : a.IsValid) : isForty (Text.ofString a.toText).chars = true := by
  obtain ⟨hlength, hall, -⟩ := checksummed_digits h
  rw [isForty, chars_toText, dropMark, if_pos (.inl rfl), hlength, hall]
  rfl

section

attribute [local instance] Platform.usual

theorem isSome_ofJson?_usual {a : Address} (h : a.IsValid) : (ofJson? (.str a.toText)).isSome := by
  rw [ofJson?_toText h (isForty_toText h)]
  rfl

end

end Address

end DidRegistry
