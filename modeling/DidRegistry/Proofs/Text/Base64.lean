import DidRegistry.Text.Base64

/-!
# Reading back base64

Bytes are written with the sixty-four digits of the URL alphabet and without padding; the reader puts the
padding back, and takes every group of digits for the bytes that it was written for.

## Results

* `Base64.mem_encode` — only digits of the URL alphabet are written.
* `Base64.decode_of_digits` — what a text of digits is read as.
* `Base64.decode_encode` — **bytes that were written are read back**, whatever their number.
* `Base64.encode_injective` — bytes that are written with the same digits are the same.
-/

set_option autoImplicit false

namespace DidRegistry.Text.Base64

theorem symbol_digit : ∀ n < 64, symbol (digit n) = .digit n := by decide +kernel

theorem digit_mem : ∀ n < 64, digit n ∈ alphabet := by decide +kernel

theorem alphabet_fits : ∀ c ∈ alphabet,
    (c == '+' || c == '/') = false ∧ c.toNat < 0x80 ∧ symbol c ≠ .padding := by
  -- the digits are gone through one by one, not all characters
  have h : alphabet.all (fun c =>
      (c == '+' || c == '/') = false ∧ c.toNat < 0x80 ∧ symbol c ≠ .padding) = true := by
    decide +kernel
  exact fun c hc => of_decide_eq_true (List.all_eq_true.mp h c hc)

/-- Only digits of the URL alphabet are written. -/
theorem mem_encode {bytes : List UInt8} : ∀ c ∈ encode bytes, c ∈ alphabet := by
  fun_induction encode bytes with
  | case1 => simp
  | case2 a =>
    have ha := a.toNat_lt
    simp only [List.forall_mem_cons]
    exact ⟨digit_mem _ (by omega), digit_mem _ (by omega), by simp⟩
  | case3 a b =>
    have ha := a.toNat_lt
    have hb := b.toNat_lt
    simp only [List.forall_mem_cons]
    exact ⟨digit_mem _ (by omega), digit_mem _ (by omega), digit_mem _ (by omega), by simp⟩
  | case4 a b c r ih =>
    have ha := a.toNat_lt
    have hb := b.toNat_lt
    have hc := c.toNat_lt
    simp only [List.forall_mem_cons]
    exact ⟨digit_mem _ (by omega), digit_mem _ (by omega), digit_mem _ (by omega), digit_mem _ (by omega), ih⟩

/-- The padding that a text of `n` digits lacks. -/
def padding (n : Nat) : List Symbol := List.replicate ((4 - n % 4) % 4) .padding

/-- Four more digits lack no more padding. -/
theorem padding_group (n : Nat) : padding (n + 1 + 1 + 1 + 1) = padding n := by
  simp only [padding]
  congr 1
  omega

section

variable (a b c : UInt8) (r : List Symbol)

/-- The first two digits hold the first byte and the high bits of the second one. -/
theorem decodeFrom_first {n : Nat} (hn : n < 16) :
    decodeFrom true 0 0 0 false (.digit (a.toNat / 4) :: .digit (a.toNat % 4 * 16 + n) :: r) =
      (decodeFrom true 2 n 0 false r).map (a :: ·) := by
  have hbyte : a.toNat / 4 * 4 + (a.toNat % 4 * 16 + n) / 16 = a.toNat := by omega
  have hheld : (a.toNat % 4 * 16 + n) % 16 = n := by omega
  simp only [decodeFrom, Bool.and_false, Bool.false_eq_true, if_false, hbyte, hheld, UInt8.ofNat_toNat]

/-- The third digit holds the rest of the second byte and the high bits of the third one. -/
theorem decodeFrom_second {n : Nat} (hn : n < 4) :
    decodeFrom true 2 (b.toNat / 16) 0 false (.digit (b.toNat % 16 * 4 + n) :: r) =
      (decodeFrom true 3 n 0 false r).map (b :: ·) := by
  have hbyte : b.toNat / 16 * 16 + (b.toNat % 16 * 4 + n) / 4 = b.toNat := by omega
  have hheld : (b.toNat % 16 * 4 + n) % 4 = n := by omega
  simp only [decodeFrom, Bool.and_false, Bool.false_eq_true, if_false, hbyte, hheld, UInt8.ofNat_toNat]

/-- The fourth digit holds the rest of the third byte. -/
theorem decodeFrom_third :
    decodeFrom true 3 (c.toNat / 64) 0 false (.digit (c.toNat % 64) :: r) =
      (decodeFrom true 0 0 0 false r).map (c :: ·) := by
  have hbyte : c.toNat / 64 * 64 + c.toNat % 64 = c.toNat := by omega
  simp only [decodeFrom, Bool.and_false, Bool.false_eq_true, if_false, hbyte, UInt8.ofNat_toNat]

end

/-- The symbols of bytes that were written are read back. -/
theorem decodeFrom_encode (bytes : List UInt8) :
    decodeFrom true 0 0 0 false ((encode bytes).map symbol ++ padding (encode bytes).length) =
      some bytes := by
  fun_induction encode bytes with
  | case1 => rfl
  | case2 a =>
    have ha := a.toNat_lt
    simp only [List.map_cons, List.map_nil, symbol_digit _ (show a.toNat / 4 < 64 by omega),
      symbol_digit _ (show a.toNat % 4 * 16 < 64 by omega), List.cons_append, List.nil_append]
    exact (decodeFrom_first a _ (show 0 < 16 by omega)).trans rfl
  | case3 a b =>
    have ha := a.toNat_lt
    have hb := b.toNat_lt
    simp only [List.map_cons, List.map_nil, symbol_digit _ (show a.toNat / 4 < 64 by omega),
      symbol_digit _ (show a.toNat % 4 * 16 + b.toNat / 16 < 64 by omega),
      symbol_digit _ (show b.toNat % 16 * 4 < 64 by omega), List.cons_append, List.nil_append]
    rw [decodeFrom_first a _ (show b.toNat / 16 < 16 by omega)]
    exact congrArg (Option.map (a :: ·)) ((decodeFrom_second b _ (show 0 < 4 by omega)).trans rfl)
  | case4 a b c r ih =>
    have ha := a.toNat_lt
    have hb := b.toNat_lt
    have hc := c.toNat_lt
    simp only [List.map_cons, symbol_digit _ (show a.toNat / 4 < 64 by omega),
      symbol_digit _ (show a.toNat % 4 * 16 + b.toNat / 16 < 64 by omega),
      symbol_digit _ (show b.toNat % 16 * 4 + c.toNat / 64 < 64 by omega),
      symbol_digit _ (show c.toNat % 64 < 64 by omega), List.cons_append, List.length_cons]
    rw [decodeFrom_first a _ (show b.toNat / 16 < 16 by omega),
      decodeFrom_second b _ (show c.toNat / 64 < 4 by omega), decodeFrom_third, padding_group, ih]
    rfl

/-- A text of digits is read as its symbols with the padding that it lacks. -/
theorem decode_of_digits {s : List Char} (h : ∀ c ∈ s, c ∈ alphabet) :
    decode s = match decodeFrom true 0 0 0 false (s.map symbol ++ padding s.length) with
      | some bytes => .ok bytes
      | none => .error .malformed := by
  have hfits : ∀ c ∈ s, (c == '+' || c == '/') = false ∧ c.toNat < 0x80 ∧ symbol c ≠ .padding :=
    fun c hc => alphabet_fits c (h c hc)
  have hforeign : (s.any fun c => c == '+' || c == '/') = false :=
    List.any_eq_false.mpr fun c hc => by simp [(hfits c hc).1]
  have hascii : (s.any fun c => 0x80 ≤ c.toNat) = false :=
    List.any_eq_false.mpr fun c hc => by simpa using (hfits c hc).2.1
  have hhead : (s.map symbol ++ padding s.length).head? ≠ some .padding := by
    cases s with
    | nil => simp [padding]
    | cons c r => simpa using (hfits c List.mem_cons_self).2.2
  have hpad : List.replicate ((4 - s.length % 4) % 4) Symbol.padding = padding s.length := rfl
  unfold decode
  simp only [hforeign, hascii, Bool.false_eq_true, if_false, hpad]
  exact if_neg hhead

/-- **Bytes that were written are read back.** -/
theorem decode_encode (bytes : List UInt8) : decode (encode bytes) = .ok bytes := by
  rw [decode_of_digits mem_encode, decodeFrom_encode]

/-- Bytes that are written with the same digits are the same. -/
theorem encode_injective : Function.Injective encode := fun a b h =>
  Except.ok.inj (by rw [← decode_encode a, ← decode_encode b, h])

end DidRegistry.Text.Base64
