import DidRegistry.Proofs.Text.Unpadded

/-!
# Base64 with padding

Base64 comes in groups of four digits, and where the last group is short it may be filled up with padding.
A text may have all of the padding that it lacks, or a part of it, or none.  Behind whole groups nothing
is lacked; there the reader passes over any padding, as long as there is a digit in front of it.

## Results

* `Base64.decodeFrom_padded` — digits are read with just the padding that they lack, and with any padding
  where they lack none.
* `Base64.shape_of_decodeFrom` — what the strict reader gets through is digits with padding behind them.
* `Base64.decode_eq_ok_iff` — **which texts are read as which bytes**.
* `Base64.Overfull.not_spells` — a text with padding behind whole groups is not one that lacks it.
-/

set_option autoImplicit false

namespace DidRegistry.Text.Base64

/-! ## Texts with padding -/

/-- How much padding a text of `n` digits lacks. -/
def lacking (n : Nat) : Nat := (4 - n % 4) % 4

/-- The text spells the bytes: digits, which the bytes are written with but for unused bits, and behind
them no more padding than they lack. -/
inductive Spells : List Char → List UInt8 → Prop where
  | intro {digits : List Char} {bytes : List UInt8} {k : Nat} (alphabetic : ∀ c ∈ digits, c ∈ alphabet)
      (written : encode bytes = cleared digits) (lacked : k ≤ lacking digits.length) :
      Spells (digits ++ List.replicate k '=') bytes

/-- The text spells the bytes in whole groups of digits, but there is padding behind them. -/
inductive Overfull : List Char → List UInt8 → Prop where
  | intro {digits : List Char} {bytes : List UInt8} {k : Nat} (alphabetic : ∀ c ∈ digits, c ∈ alphabet)
      (written : encode bytes = digits) (whole : digits.length % 4 = 0) (nonempty : digits ≠ [])
      (surplus : 0 < k) : Overfull (digits ++ List.replicate k '=') bytes

theorem mark_not_mem : '=' ∉ alphabet := by decide

/-- The padding of a text is told from its digits. -/
theorem padding_inj {ds es : List Char} {k m : Nat} (hd : ∀ c ∈ ds, c ∈ alphabet)
    (he : ∀ c ∈ es, c ∈ alphabet) (h : ds ++ List.replicate k '=' = es ++ List.replicate m '=') :
    ds = es ∧ k = m := by
  have hcount : ∀ {s : List Char} (n : Nat), (∀ c ∈ s, c ∈ alphabet) →
      (s ++ List.replicate n '=').count '=' = n := fun {s} n hs => by
    have hnone : s.count '=' = 0 := List.count_eq_zero.mpr fun hm => mark_not_mem (hs _ hm)
    rw [List.count_append, hnone, List.count_replicate_self, Nat.zero_add]
  have hk : k = m := by rw [← hcount k hd, h, hcount m he]
  exact ⟨List.append_cancel_right (hk ▸ h), hk⟩

/-- A text with padding behind whole groups is not one that lacks it. -/
theorem Overfull.not_spells {s : List Char} {bytes bytes' : List UInt8} (h : Overfull s bytes) :
    ¬Spells s bytes' := by
  obtain ⟨hdigits, -, hwhole, -, hk⟩ := h
  generalize hs : _ ++ List.replicate _ '=' = s
  rintro ⟨hdigits', -, hk'⟩
  obtain ⟨rfl, rfl⟩ := padding_inj hdigits hdigits' hs
  simp only [lacking] at hk'
  omega

/-! ## Reading padding -/

/-- Between groups padding is passed over. -/
theorem decodeFrom_between (m held pads : Nat) (padded : Bool) :
    decodeFrom true 0 held pads padded (List.replicate m .padding) = some [] := by
  induction m generalizing held pads padded with
  | zero => rfl
  | succ m ih => exact ih held pads true

/-- Behind a single digit padding is of no use. -/
theorem decodeFrom_behindOne (m held pads : Nat) (padded : Bool) :
    decodeFrom true 1 held pads padded (List.replicate m .padding) = none := by
  induction m generalizing held pads padded with
  | zero => rfl
  | succ m ih => exact ih held pads true

/-- Digits are read with the padding that they lack, and with no other, or with any where they lack none. -/
theorem decodeFrom_padded : ∀ {s : List Char}, (∀ c ∈ s, c ∈ alphabet) → ∀ m : Nat,
    decodeFrom true 0 0 0 false (s.map symbol ++ List.replicate m .padding) =
      if s.length % 4 = 0 ∨ m = lacking s.length then
        decodeFrom true 0 0 0 false (s.map symbol ++ padding s.length)
      else none
  | [], _, m => (decodeFrom_between m 0 0 false).trans rfl
  | [c], hs, m => by
    obtain ⟨x, hx, rfl⟩ := exists_digit (hs c List.mem_cons_self)
    have hnone : decodeFrom true 0 0 0 false ([digit x].map symbol ++ List.replicate m .padding) = none := by
      simp only [List.map_cons, List.map_nil, symbol_digit _ hx]
      exact decodeFrom_behindOne m x 0 false
    rw [hnone, decodeFrom_single hs rfl, ite_self]
  | [c, d], hs, m => by
    simp only [List.forall_mem_cons] at hs
    obtain ⟨x, hx, rfl⟩ := exists_digit hs.1
    obtain ⟨y, hy, rfl⟩ := exists_digit hs.2.1
    obtain ⟨a, n, hn, rfl, rfl⟩ := exists_first hx hy
    simp only [List.map_cons, List.map_nil, symbol_digit _ hx, symbol_digit _ hy, List.cons_append,
      List.nil_append, decodeFrom_first a _ hn]
    match m with
    | 0 | 1 | 2 => rfl
    | m + 3 => rfl
  | [c, d, e], hs, m => by
    simp only [List.forall_mem_cons] at hs
    obtain ⟨x, hx, rfl⟩ := exists_digit hs.1
    obtain ⟨y, hy, rfl⟩ := exists_digit hs.2.1
    obtain ⟨z, hz, rfl⟩ := exists_digit hs.2.2.1
    obtain ⟨a, n, hn, rfl, rfl⟩ := exists_first hx hy
    obtain ⟨b, l, hl, rfl, rfl⟩ := exists_second hn hz
    simp only [List.map_cons, List.map_nil, symbol_digit _ hx, symbol_digit _ hy, symbol_digit _ hz,
      List.cons_append, List.nil_append, decodeFrom_first a _ hn, decodeFrom_second b _ hl]
    match m with
    | 0 | 1 => rfl
    | m + 2 => rfl
  | c :: d :: e :: f :: r, hs, m => by
    simp only [List.forall_mem_cons] at hs
    obtain ⟨hc, hd, he, hf, hr⟩ := hs
    obtain ⟨x, y, z, hgroup, -⟩ := decodeFrom_group hc hd he hf r
    have hlength : (c :: d :: e :: f :: r).length % 4 = r.length % 4 := by
      simp only [List.length_cons]
      omega
    have hpadding : padding (c :: d :: e :: f :: r).length = padding r.length := padding_group _
    rw [hgroup, hgroup, decodeFrom_padded hr m, hpadding, apply_ite (Option.map _), Option.map_none]
    simp only [lacking, hlength]
    rfl

/-- What the strict reader gets through is digits with padding behind them, and no digits behind padding. -/
theorem shape_of_decodeFrom {s : List Char} (hascii : ∀ c ∈ s, c.toNat < 0x80) {t : List Symbol}
    {place held pads : Nat} {padded : Bool} {bytes : List UInt8}
    (h : decodeFrom true place held pads padded (s.map symbol ++ t) = some bytes) :
    ∃ digits k, s = digits ++ List.replicate k '=' ∧ (∀ c ∈ digits, c ∈ alphabet) ∧
      (padded = true → digits = []) := by
  induction s generalizing place held pads padded bytes with
  | nil => exact ⟨[], 0, rfl, by simp, fun _ => rfl⟩
  | cons c s ih =>
    rw [List.forall_mem_cons] at hascii
    rw [List.map_cons, List.cons_append] at h
    rcases symbol_of_ascii hascii.1 with hdigit | rfl | hforeign
    · obtain ⟨n, hn, rfl⟩ := exists_digit hdigit
      rw [symbol_digit n hn] at h
      unfold decodeFrom at h
      split at h
      · cases h
      rename_i hpadded
      have hfresh : padded = false := by simpa using hpadded
      subst hfresh
      have hrest : ∃ place held bytes,
          decodeFrom true place held 0 false (s.map symbol ++ t) = some bytes := by
        split at h
        · exact ⟨_, _, _, h⟩
        all_goals
          obtain ⟨bytes, hbytes, -⟩ := Option.map_eq_some_iff.mp h
          exact ⟨_, _, _, hbytes⟩
      obtain ⟨place, held, bytes, hrest⟩ := hrest
      obtain ⟨digits, k, rfl, hdigits, -⟩ := ih hascii.2 hrest
      exact ⟨digit n :: digits, k, rfl, List.forall_mem_cons.mpr ⟨hdigit, hdigits⟩, nofun⟩
    · have hrest : s = [] ∨ ∃ place held pads bytes,
          decodeFrom true place held pads true (s.map symbol ++ t) = some bytes := by
        have hsymbol : symbol '=' = .padding := rfl
        rw [hsymbol] at h
        unfold decodeFrom at h
        split at h
        · exact .inr ⟨_, _, _, _, h⟩
        split at h
        · exact .inr ⟨_, _, _, _, h⟩
        split at h
        · cases h
        · rename_i hempty
          refine .inl ?_
          have hnil : s.map symbol ++ t = [] := by simpa using hempty
          exact List.map_eq_nil_iff.mp (List.append_eq_nil_iff.mp hnil).1
      rcases hrest with rfl | ⟨place, held, pads, bytes, hrest⟩
      · exact ⟨[], 1, rfl, by simp, fun _ => rfl⟩
      · obtain ⟨digits, k, rfl, -, hnone⟩ := ih hascii.2 hrest
        rw [hnone rfl]
        exact ⟨[], k + 1, rfl, by simp, fun _ => rfl⟩
    · rw [hforeign] at h
      cases h

/-! ## Texts -/

/-- With the padding that is put behind a text, so that its groups are whole, `k` are all that `n` digits lack
exactly when they are no more. -/
theorem lacking_iff {n k : Nat} : k + lacking (n + k) = lacking n ↔ k ≤ lacking n := by
  unfold lacking
  omega

/-- Digits with padding behind them are read exactly when they are read without it, and it is no more than
they lack, if they lack any. -/
theorem decode_of_padded {digits : List Char} {k : Nat} {bytes : List UInt8}
    (hdigits : ∀ c ∈ digits, c ∈ alphabet) (hk : digits = [] → k = 0) :
    decode (digits ++ List.replicate k '=') = .ok bytes ↔
      (digits.length % 4 = 0 ∨ k ≤ lacking digits.length) ∧ decode digits = .ok bytes := by
  have hchars : ∀ c ∈ digits ++ List.replicate k '=', (c == '+' || c == '/') = false ∧ c.toNat < 0x80 := by
    intro c hc
    rcases List.mem_append.mp hc with hdigit | hpad
    · exact ⟨(alphabet_fits c (hdigits c hdigit)).1, (alphabet_fits c (hdigits c hdigit)).2.1⟩
    · rw [List.eq_of_mem_replicate hpad]
      decide
  have hforeign : ((digits ++ List.replicate k '=').any fun c => c == '+' || c == '/') = false :=
    List.any_eq_false.mpr fun c hc => by simp [(hchars c hc).1]
  have hascii : ((digits ++ List.replicate k '=').any fun c => 0x80 ≤ c.toNat) = false :=
    List.any_eq_false.mpr fun c hc => by simpa using (hchars c hc).2
  have hsymbols : (digits ++ List.replicate k '=').map symbol ++
      List.replicate ((4 - (digits ++ List.replicate k '=').length % 4) % 4) .padding =
        digits.map symbol ++ List.replicate (k + lacking (digits.length + k)) .padding := by
    rw [List.map_append, List.map_replicate, List.append_assoc, List.length_append, List.length_replicate]
    exact congrArg _ List.replicate_append_replicate
  have hhead : (digits.map symbol ++ List.replicate (k + lacking (digits.length + k)) Symbol.padding).head? ≠
      some .padding := by
    cases digits with
    | nil =>
      rw [hk rfl]
      exact nofun
    | cons c r => simpa using (alphabet_fits c (hdigits c List.mem_cons_self)).2.2
  have hread : decode (digits ++ List.replicate k '=') = .ok bytes ↔
      decodeFrom true 0 0 0 false
        (digits.map symbol ++ List.replicate (k + lacking (digits.length + k)) .padding) = some bytes := by
    unfold decode
    simp only [hforeign, hascii, hsymbols, Bool.false_eq_true, if_false]
    rw [if_neg hhead]
    cases decodeFrom true 0 0 0 false _ <;> simp
  have hplain : decode digits = .ok bytes ↔
      decodeFrom true 0 0 0 false (digits.map symbol ++ padding digits.length) = some bytes := by
    rw [decode_of_digits hdigits]
    cases decodeFrom true 0 0 0 false _ <;> simp
  rw [hread, hplain, decodeFrom_padded hdigits]
  simp only [lacking_iff]
  by_cases hroom : digits.length % 4 = 0 ∨ k ≤ lacking digits.length
  · rw [if_pos hroom]
    exact (and_iff_right hroom).symm
  · simp [hroom]

theorem length_encode (bytes : List UInt8) : (encode bytes).length % 4 ≠ 1 := by
  fun_induction encode bytes with
  | case1 | case2 | case3 => exact Nat.ne_of_beq_eq_false rfl
  | case4 a b c r ih =>
    simp only [List.length_cons]
    omega

theorem length_cleared (s : List Char) : (cleared s).length = s.length := by
  rcases List.eq_nil_or_concat s with rfl | ⟨r, c, rfl⟩
  · rfl
  · simp [cleared]

/-- What is read of digits is what they are written with but for unused bits. -/
theorem decode_digits_iff {digits : List Char} (hdigits : ∀ c ∈ digits, c ∈ alphabet) {bytes : List UInt8} :
    decode digits = .ok bytes ↔ encode bytes = cleared digits := by
  have hp : '=' ∉ digits := fun hm => mark_not_mem (hdigits _ hm)
  refine ⟨encode_of_decode hp, fun hwritten => ?_⟩
  have hlength : digits.length % 4 ≠ 1 := by
    rw [← length_cleared, ← hwritten]
    exact length_encode bytes
  obtain ⟨read, hread⟩ := (decode_isOk_iff hp).mpr ⟨hdigits, hlength⟩
  have hsame : read = bytes := encode_injective ((encode_of_decode hp hread).trans hwritten.symm)
  rw [hread, hsame]

theorem spells_encode (bytes : List UInt8) : Spells (encode bytes) bytes := by
  have hspells := Spells.intro (k := 0) mem_encode ((decode_digits_iff mem_encode).mp (decode_encode bytes))
    (Nat.zero_le _)
  rwa [List.replicate_zero, List.append_nil] at hspells

theorem decode_eq_ok {s : List Char} {bytes : List UInt8} (h : decode s = .ok bytes) :
    (∀ c ∈ s, c.toNat < 0x80) ∧ s.head? ≠ some '=' ∧
      ∃ t, decodeFrom true 0 0 0 false (s.map symbol ++ t) = some bytes := by
  unfold decode at h
  split at h
  · cases h
  split at h
  · cases h
  rename_i hascii
  dsimp only at h
  split at h
  · cases h
  rename_i hhead
  split at h
  · rename_i hread
    cases h
    refine ⟨fun c hc => ?_, fun hpad => ?_, _, hread⟩
    · simpa using List.any_eq_false.mp (Bool.eq_false_iff.mpr hascii) c hc
    · obtain ⟨r, rfl⟩ := List.head?_eq_some_iff.mp hpad
      exact hhead rfl
  · cases h

/-- **Which texts are read as which bytes**: those that spell the bytes, and those with padding behind whole
groups of digits that do. -/
theorem decode_eq_ok_iff {s : List Char} {bytes : List UInt8} :
    decode s = .ok bytes ↔ Spells s bytes ∨ Overfull s bytes := by
  constructor
  · intro h
    obtain ⟨hascii, hhead, t, hread⟩ := decode_eq_ok h
    obtain ⟨digits, k, rfl, hdigits, -⟩ := shape_of_decodeFrom hascii hread
    have hk : digits = [] → k = 0 := by
      rintro rfl
      cases k with
      | zero => rfl
      | succ k => exact (hhead rfl).elim
    obtain ⟨hroom, hplain⟩ := (decode_of_padded hdigits hk).mp h
    have hwritten := (decode_digits_iff hdigits).mp hplain
    by_cases hlacked : k ≤ lacking digits.length
    · exact .inl (.intro hdigits hwritten hlacked)
    · have hwhole := hroom.resolve_right hlacked
      have hnonempty : digits ≠ [] := fun hnil => hlacked (hk hnil ▸ Nat.zero_le _)
      exact .inr (.intro hdigits (hwritten.trans (cleared_of_whole hdigits hwhole)) hwhole hnonempty
        (Nat.zero_lt_of_lt (Nat.not_le.mp hlacked)))
  · rintro (⟨hdigits, hwritten, hlacked⟩ | ⟨hdigits, hwritten, hwhole, hnonempty, -⟩)
    · refine (decode_of_padded hdigits ?_).mpr ⟨.inr hlacked, (decode_digits_iff hdigits).mpr hwritten⟩
      rintro rfl
      exact Nat.le_zero.mp hlacked
    · refine (decode_of_padded hdigits fun hnil => (hnonempty hnil).elim).mpr ⟨.inl hwhole, ?_⟩
      exact (decode_digits_iff hdigits).mpr (hwritten.trans (cleared_of_whole hdigits hwhole).symm)

end DidRegistry.Text.Base64
