import DidRegistry.Text.Utf8

/-!
# Byte sequences that are UTF-8

The reader takes the forms of points and nothing else: an overlong form stands for a point below the least
one that needs so many bytes, a half of a surrogate pair for no character, and a sequence that breaks off
has a byte to come.  The forms of characters are those of the standard library.

## Results

* `Utf8.decodePoints_eq_some_iff` — **points are read from exactly the bytes they are written in**.
* `Utf8.decode_eq_some_iff` — characters likewise.
* `Utf8.isSome_decode_iff` — **the bytes that are read as characters are those that are valid UTF-8**.
-/

set_option autoImplicit false

namespace DidRegistry.Text

theorem toNat_charOfNat {n : Nat} (h : n.isValidChar) : (Char.ofNat n).toNat = n := by
  rw [Char.ofNat, dif_pos h]
  rfl

theorem code_of_ofCode? {n : Nat} {p : Point} (h : Point.ofCode? n = some p) : p.code = n := by
  unfold Point.ofCode? at h
  split at h
  · rename_i hl
    cases h
    simp only [Point.code]
    omega
  · rename_i hl
    split at h
    · rename_i hu
      cases h
      exact toNat_charOfNat (by simp only [Nat.isValidChar]; omega)
    · cases h

theorem points_of_mapM_char? {ps : List Point} {cs : List Char} (h : ps.mapM Point.char? = some cs) :
    ps = (ofChars cs).points := by
  induction ps generalizing cs with
  | nil =>
    cases h
    rfl
  | cons p ps ih =>
    rw [List.mapM_cons] at h
    obtain ⟨c, hc, h⟩ := Option.bind_eq_some_iff.mp h
    obtain ⟨ds, hds, h⟩ := Option.bind_eq_some_iff.mp h
    cases h
    cases p with
    | char _ =>
      cases hc
      exact congrArg (Point.char c :: ·) (ih hds)
    | lone _ => cases hc

namespace Utf8

/-! ## What was read -/

/-- The byte that completes a point holds its lowest six bits. -/
theorem decodeFrom_one {low acc : Nat} {bytes : List UInt8} {ps : List Point}
    (h : decodeFrom 1 low acc bytes = some ps) :
    ∃ t p r rs, t < 0x40 ∧ bytes = UInt8.ofNat (0x80 + t) :: r ∧ p.code = acc * 0x40 + t ∧
      low ≤ p.code ∧ decodePoints r = some rs ∧ ps = p :: rs := by
  cases bytes with
  | nil => cases h
  | cons b r =>
    rw [decodeFrom] at h
    split at h
    · rename_i hb
      rw [if_pos rfl] at h
      obtain ⟨p, hp, h⟩ := Option.bind_eq_some_iff.mp h
      obtain ⟨rs, hrs, h⟩ := Option.map_eq_some_iff.mp h
      unfold point? at hp
      split at hp
      · rename_i hlow
        have hcode := code_of_ofCode? hp
        refine ⟨b.toNat - 0x80, p, r, rs, by omega, ?_, hcode, hcode ▸ hlow, hrs, h.symm⟩
        rw [show 0x80 + (b.toNat - 0x80) = b.toNat by omega, UInt8.ofNat_toNat]
      · cases hp
    · cases h

/-- A byte that does not complete a point holds six bits of it. -/
theorem decodeFrom_more {need low acc : Nat} {bytes : List UInt8} {ps : List Point}
    (h : decodeFrom (need + 2) low acc bytes = some ps) :
    ∃ t r, t < 0x40 ∧ bytes = UInt8.ofNat (0x80 + t) :: r ∧
      decodeFrom (need + 1) low (acc * 0x40 + t) r = some ps := by
  cases bytes with
  | nil => cases h
  | cons b r =>
    rw [decodeFrom] at h
    split at h
    · rename_i hb
      rw [if_neg (Nat.succ_ne_zero need)] at h
      refine ⟨b.toNat - 0x80, r, by omega, ?_, h⟩
      rw [show 0x80 + (b.toNat - 0x80) = b.toNat by omega, UInt8.ofNat_toNat]
    · cases h

/-- What is read from bytes that are not none is a point and its form, and what is read from the rest. -/
theorem decodePoints_cons {b : UInt8} {r : List UInt8} {ps : List Point}
    (h : decodePoints (b :: r) = some ps) :
    ∃ p rest qs, b :: r = encodePoint p.code ++ rest ∧ decodePoints rest = some qs ∧ ps = p :: qs := by
  have hbyte : ∀ k t, b.toNat = k + t → b = UInt8.ofNat (k + t) := fun k t hk => by
    rw [← hk, UInt8.ofNat_toNat]
  rw [decodePoints, decodeFrom] at h
  -- the first byte says how many are to come
  split at h
  · rename_i hb
    obtain ⟨qs, hqs, h⟩ := Option.map_eq_some_iff.mp h
    have hcode : (Char.ofNat b.toNat).toNat = b.toNat :=
      toNat_charOfNat (by simp only [Nat.isValidChar]; omega)
    refine ⟨.char (Char.ofNat b.toNat), r, qs, ?_, hqs, h.symm⟩
    simp only [Point.code, hcode, encodePoint, if_pos hb, UInt8.ofNat_toNat]
    rfl
  split at h
  · cases h
  split at h
  · obtain ⟨t, p, rest, qs, ht, rfl, hcode, hlow, hqs, rfl⟩ := decodeFrom_one h
    refine ⟨p, rest, qs, ?_, hqs, rfl⟩
    rw [encodePoint, if_neg (by omega), if_pos (by omega), hbyte 0xc0 (p.code / 0x40) (by omega),
      show p.code % 0x40 = t by omega]
    rfl
  split at h
  · obtain ⟨s, r₁, hs, rfl, h₁⟩ := decodeFrom_more h
    obtain ⟨t, p, rest, qs, ht, rfl, hcode, hlow, hqs, rfl⟩ := decodeFrom_one h₁
    refine ⟨p, rest, qs, ?_, hqs, rfl⟩
    rw [encodePoint, if_neg (by omega), if_neg (by omega), if_pos (by omega),
      hbyte 0xe0 (p.code / 0x1000) (by omega), show p.code / 0x40 % 0x40 = s by omega,
      show p.code % 0x40 = t by omega]
    rfl
  split at h
  · obtain ⟨q, r₁, hq, rfl, h₁⟩ := decodeFrom_more h
    obtain ⟨s, r₂, hs, rfl, h₂⟩ := decodeFrom_more h₁
    obtain ⟨t, p, rest, qs, ht, rfl, hcode, hlow, hqs, rfl⟩ := decodeFrom_one h₂
    refine ⟨p, rest, qs, ?_, hqs, rfl⟩
    rw [encodePoint, if_neg (by omega), if_neg (by omega), if_neg (by omega),
      hbyte 0xf0 (p.code / 0x40000) (by omega), show p.code / 0x1000 % 0x40 = q by omega,
      show p.code / 0x40 % 0x40 = s by omega, show p.code % 0x40 = t by omega]
    rfl
  · cases h

/-- **Points are read from exactly the bytes they are written in.** -/
theorem decodePoints_eq_some_iff {bytes : List UInt8} {ps : List Point} :
    decodePoints bytes = some ps ↔ bytes = encodePoints ps := by
  refine ⟨fun h => ?_, fun h => h ▸ decodePoints_encodePoints ps⟩
  induction ps generalizing bytes with
  | nil =>
    cases bytes with
    | nil => rfl
    | cons b r =>
      obtain ⟨p, _, qs, _, _, hps⟩ := decodePoints_cons h
      cases hps
  | cons p ps ih =>
    cases bytes with
    | nil => cases h
    | cons b r =>
      obtain ⟨q, rest, qs, hform, hrest, hps⟩ := decodePoints_cons h
      obtain ⟨rfl, rfl⟩ := List.cons.inj hps
      rw [hform, ih hrest]
      rfl

/-- Characters are read from exactly the bytes they are written in. -/
theorem decode_eq_some_iff {bytes : List UInt8} {cs : List Char} :
    decode bytes = some cs ↔ bytes = encode cs := by
  refine ⟨fun h => ?_, fun h => h ▸ decode_encode cs⟩
  obtain ⟨ps, hps, hcs⟩ := Option.bind_eq_some_iff.mp h
  rw [decodePoints_eq_some_iff.mp hps, points_of_mapM_char? hcs, encodePoints_ofChars]

/-! ## The forms of the standard library -/

theorem encodePoint_toNat (c : Char) : encodePoint c.toNat = String.utf8EncodeChar c := by
  have hv : c.toNat < 0x110000 := code_lt (.char c)
  have hn : c.val.toNat = c.toNat := rfl
  unfold encodePoint String.utf8EncodeChar
  simp only [hn]
  -- each remainder drops out, since the number is below the bound of its form
  split
  · rw [if_pos (by omega)]
  split
  · rw [if_neg (by omega), if_pos (by omega), show c.toNat / 64 % 32 + 192 = 0xc0 + c.toNat / 0x40 by omega,
      Nat.add_comm (c.toNat % 64)]
  split
  · rw [if_neg (by omega), if_neg (by omega), if_pos (by omega),
      show c.toNat / 4096 % 16 + 224 = 0xe0 + c.toNat / 0x1000 by omega, Nat.add_comm (c.toNat / 64 % 64),
      Nat.add_comm (c.toNat % 64)]
  · rw [if_neg (by omega), if_neg (by omega), if_neg (by omega),
      show c.toNat / 262144 % 8 + 240 = 0xf0 + c.toNat / 0x40000 by omega,
      Nat.add_comm (c.toNat / 4096 % 64), Nat.add_comm (c.toNat / 64 % 64), Nat.add_comm (c.toNat % 64)]

theorem encode_eq (cs : List Char) : encode cs = cs.flatMap String.utf8EncodeChar := by
  simp only [encode, encodePoint_toNat]

/-- **The bytes that are read as characters are those that are valid UTF-8.** -/
theorem isSome_decode_iff {bytes : List UInt8} :
    (decode bytes).isSome ↔ bytes.toByteArray.IsValidUTF8 := by
  rw [Option.isSome_iff_exists]
  constructor
  · rintro ⟨cs, h⟩
    refine ⟨cs, ?_⟩
    rw [decode_eq_some_iff.mp h, encode_eq, List.utf8Encode]
  · rintro ⟨cs, h⟩
    refine ⟨cs, decode_eq_some_iff.mpr ?_⟩
    rw [encode_eq]
    exact List.toByteArray_inj.mp h

end Utf8

end DidRegistry.Text
