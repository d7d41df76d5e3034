import DidRegistry.Operation.Payload
import DidRegistry.Proofs.Outcome
import DidRegistry.Proofs.Text.Base64
import Mathlib.Algebra.Group.Nat.Defs

/-!
# Base64 without padding

What is read of a text that has no padding.  Four digits are three bytes; two or three digits at the end
are one or two bytes, and the last of them holds bits that no byte has a use for.  These bits are ignored,
and nothing else is: whatever is read is written with the digits that it was read from, those bits cleared.

## Results

* `Base64.decodeFrom_group` — four digits are read as three bytes, which are written with the same digits.
* `Base64.exists_bytes` — digits of a fitting number are read, and written with the unused bits cleared.
* `Base64.decode_isOk_iff` — **a text without padding is read exactly when it is made of digits and does not
  end in a single one**.
* `Payload.bytes_unpadded` — so it is for payloads, whatever code points they hold.
-/

set_option autoImplicit false

namespace DidRegistry

namespace Text.Base64

/-! ## Digits -/

theorem digit?_digit : ∀ n < 64, digit? (digit n) = some n := by decide +kernel

theorem exists_digit {c : Char} (h : c ∈ alphabet) : ∃ n < 64, c = digit n := by
  have hall : alphabet = (List.range 64).map digit := by decide +kernel
  rw [hall] at h
  obtain ⟨n, hn, rfl⟩ := List.mem_map.mp h
  exact ⟨n, List.mem_range.mp hn, rfl⟩

theorem symbol_of_ascii {c : Char} (h : c.toNat < 0x80) :
    c ∈ alphabet ∨ c = '=' ∨ symbol c = .foreign := by
  have hall : ∀ n < 0x80,
      Char.ofNat n ∈ alphabet ∨ Char.ofNat n = '=' ∨ symbol (Char.ofNat n) = .foreign := by
    decide +kernel
  simpa only [Char.ofNat_toNat] using hall c.toNat h

theorem symbol_ne_padding {c : Char} (h : c ≠ '=') : symbol c ≠ .padding := by
  unfold symbol
  rw [if_neg h]
  cases digit? c <;> exact nofun

/-! ## Unused bits -/

/-- How many bits `n` digits hold beyond whole bytes. -/
def unusedBits (n : Nat) : Nat := 6 * n % 8

/-- A digit with its `k` low bits cleared. -/
def withoutLow (k : Nat) (c : Char) : Char := digit ((digit? c).getD 0 / 2 ^ k * 2 ^ k)

/-- Digits with the unused bits of the last one cleared. -/
def cleared (s : List Char) : List Char :=
  s.dropLast ++ (s.getLast?.map (withoutLow (unusedBits s.length))).toList

theorem withoutLow_digit {n : Nat} (k : Nat) (h : n < 64) :
    withoutLow k (digit n) = digit (n / 2 ^ k * 2 ^ k) := by
  rw [withoutLow, digit?_digit n h, Option.getD_some]

/-- Whole groups have no unused bits, so that those of a text are those of its end. -/
theorem cleared_group {d : Char} (h : d ∈ alphabet) (a b c : Char) (r : List Char) :
    cleared (a :: b :: c :: d :: r) = a :: b :: c :: d :: cleared r := by
  cases r with
  | nil =>
    have hlast : withoutLow (unusedBits 4) d = d := by
      obtain ⟨n, hn, rfl⟩ := exists_digit h
      rw [withoutLow_digit _ hn, show unusedBits 4 = 0 from rfl, Nat.pow_zero, Nat.div_one, Nat.mul_one]
    simp [cleared, hlast]
  | cons e r =>
    have hbits : unusedBits (r.length + 1 + 1 + 1 + 1 + 1) = unusedBits (r.length + 1) := by
      simp only [unusedBits]
      omega
    simp [cleared, hbits]

/-- Digits in whole groups have no unused bits. -/
theorem cleared_of_whole : ∀ {s : List Char}, (∀ c ∈ s, c ∈ alphabet) → s.length % 4 = 0 → cleared s = s
  | [], _, _ => rfl
  | [_], _, h => by cases h
  | [_, _], _, h => by cases h
  | [_, _, _], _, h => by cases h
  | a :: b :: c :: d :: r, hs, h => by
    simp only [List.forall_mem_cons] at hs
    obtain ⟨-, -, -, hd, hr⟩ := hs
    have hlen : r.length % 4 = 0 := by
      simp only [List.length_cons] at h
      omega
    rw [cleared_group hd, cleared_of_whole hr hlen]

/-! ## Groups of digits -/

/-- Two digits are a byte and four more bits. -/
theorem exists_first {x y : Nat} (hx : x < 64) (hy : y < 64) :
    ∃ (a : UInt8) (n : Nat), n < 16 ∧ x = a.toNat / 4 ∧ y = a.toNat % 4 * 16 + n := by
  have hbyte : (UInt8.ofNat (x * 4 + y / 16)).toNat = x * 4 + y / 16 :=
    Utf8.toNat_ofNat_of_lt (by omega)
  exact ⟨UInt8.ofNat (x * 4 + y / 16), y % 16, by omega, by omega, by omega⟩

/-- Four bits and a digit are a byte and two more bits. -/
theorem exists_second {n y : Nat} (hn : n < 16) (hy : y < 64) :
    ∃ (b : UInt8) (m : Nat), m < 4 ∧ n = b.toNat / 16 ∧ y = b.toNat % 16 * 4 + m := by
  have hbyte : (UInt8.ofNat (n * 16 + y / 4)).toNat = n * 16 + y / 4 :=
    Utf8.toNat_ofNat_of_lt (by omega)
  exact ⟨UInt8.ofNat (n * 16 + y / 4), y % 4, by omega, by omega, by omega⟩

/-- Two bits and a digit are a byte. -/
theorem exists_third {m z : Nat} (hm : m < 4) (hz : z < 64) :
    ∃ c : UInt8, m = c.toNat / 64 ∧ z = c.toNat % 64 := by
  have hbyte : (UInt8.ofNat (m * 64 + z)).toNat = m * 64 + z := Utf8.toNat_ofNat_of_lt (by omega)
  exact ⟨UInt8.ofNat (m * 64 + z), by omega, by omega⟩

/-- Four digits are read as three bytes, which are written with the same digits. -/
theorem decodeFrom_group {c d e f : Char} (hc : c ∈ alphabet) (hd : d ∈ alphabet) (he : e ∈ alphabet)
    (hf : f ∈ alphabet) (r : List Char) :
    ∃ x y z : UInt8,
      (∀ t, decodeFrom true 0 0 0 false ((c :: d :: e :: f :: r).map symbol ++ t) =
        (decodeFrom true 0 0 0 false (r.map symbol ++ t)).map fun bytes => x :: y :: z :: bytes) ∧
      ∀ bytes, encode (x :: y :: z :: bytes) = c :: d :: e :: f :: encode bytes := by
  obtain ⟨i, hi, rfl⟩ := exists_digit hc
  obtain ⟨j, hj, rfl⟩ := exists_digit hd
  obtain ⟨k, hk, rfl⟩ := exists_digit he
  obtain ⟨l, hl, rfl⟩ := exists_digit hf
  obtain ⟨x, n, hn, rfl, rfl⟩ := exists_first hi hj
  obtain ⟨y, m, hm, rfl, rfl⟩ := exists_second hn hk
  obtain ⟨z, rfl, rfl⟩ := exists_third hm hl
  refine ⟨x, y, z, fun t => ?_, fun bytes => rfl⟩
  simp only [List.map_cons, symbol_digit _ hi, symbol_digit _ hj, symbol_digit _ hk, symbol_digit _ hl,
    List.cons_append]
  rw [decodeFrom_first x _ hn, decodeFrom_second y _ hm, decodeFrom_third]
  simp only [Option.map_map]
  rfl

/-- Digits of a fitting number are read, and what is read is written with the same digits, the unused bits
cleared. -/
theorem exists_bytes : ∀ {s : List Char}, (∀ c ∈ s, c ∈ alphabet) → s.length % 4 ≠ 1 →
    ∃ bytes, decodeFrom true 0 0 0 false (s.map symbol ++ padding s.length) = some bytes ∧
      encode bytes = cleared s
  | [], _, _ => ⟨[], rfl, rfl⟩
  | [_], _, h => (h rfl).elim
  | [c, d], hs, _ => by
    simp only [List.forall_mem_cons] at hs
    obtain ⟨x, hx, rfl⟩ := exists_digit hs.1
    obtain ⟨y, hy, rfl⟩ := exists_digit hs.2.1
    obtain ⟨a, n, hn, rfl, rfl⟩ := exists_first hx hy
    refine ⟨[a], ?_, ?_⟩
    · simp only [List.map_cons, List.map_nil, symbol_digit _ hx, symbol_digit _ hy, List.cons_append,
        List.nil_append]
      exact (decodeFrom_first a _ hn).trans rfl
    · have hlast : withoutLow (unusedBits 2) (digit (a.toNat % 4 * 16 + n)) = digit (a.toNat % 4 * 16) := by
        rw [withoutLow_digit _ hy, show (2 : Nat) ^ unusedBits 2 = 16 from rfl]
        congr 1
        omega
      simp [encode, cleared, hlast]
  | [c, d, e], hs, _ => by
    simp only [List.forall_mem_cons] at hs
    obtain ⟨x, hx, rfl⟩ := exists_digit hs.1
    obtain ⟨y, hy, rfl⟩ := exists_digit hs.2.1
    obtain ⟨z, hz, rfl⟩ := exists_digit hs.2.2.1
    obtain ⟨a, n, hn, rfl, rfl⟩ := exists_first hx hy
    obtain ⟨b, m, hm, rfl, rfl⟩ := exists_second hn hz
    refine ⟨[a, b], ?_, ?_⟩
    · simp only [List.map_cons, List.map_nil, symbol_digit _ hx, symbol_digit _ hy, symbol_digit _ hz,
        List.cons_append, List.nil_append]
      rw [decodeFrom_first a _ hn]
      exact congrArg (Option.map (a :: ·)) ((decodeFrom_second b _ hm).trans rfl)
    · have hlast : withoutLow (unusedBits 3) (digit (b.toNat % 16 * 4 + m)) = digit (b.toNat % 16 * 4) := by
        rw [withoutLow_digit _ hz, show (2 : Nat) ^ unusedBits 3 = 4 from rfl]
        congr 1
        omega
      simp [encode, cleared, hlast]
  | c :: d :: e :: f :: r, hs, h => by
    simp only [List.forall_mem_cons] at hs
    obtain ⟨hc, hd, he, hf, hr⟩ := hs
    have hlen : r.length % 4 ≠ 1 := by
      simp only [List.length_cons] at h
      omega
    -- a whole group has no unused bits, and leaves the number of digits beyond whole groups as it is
    obtain ⟨bytes, hread, hwritten⟩ := exists_bytes hr hlen
    obtain ⟨x, y, z, hgroup, hencode⟩ := decodeFrom_group hc hd he hf r
    refine ⟨x :: y :: z :: bytes, ?_, ?_⟩
    · rw [List.length_cons, List.length_cons, List.length_cons, List.length_cons, padding_group, hgroup,
        hread]
      rfl
    · rw [hencode, hwritten, cleared_group hf]

/-- A single digit behind whole groups is no byte. -/
theorem decodeFrom_single : ∀ {s : List Char}, (∀ c ∈ s, c ∈ alphabet) → s.length % 4 = 1 →
    decodeFrom true 0 0 0 false (s.map symbol ++ padding s.length) = none
  | [], _, h => by cases h
  | [c], hs, _ => by
    obtain ⟨x, hx, rfl⟩ := exists_digit (hs c List.mem_cons_self)
    simp only [List.map_cons, symbol_digit _ hx]
    rfl
  | [_, _], _, h => by cases h
  | [_, _, _], _, h => by cases h
  | c :: d :: e :: f :: r, hs, h => by
    simp only [List.forall_mem_cons] at hs
    obtain ⟨hc, hd, he, hf, hr⟩ := hs
    have hlen : r.length % 4 = 1 := by
      simp only [List.length_cons] at h
      omega
    obtain ⟨x, y, z, hgroup, -⟩ := decodeFrom_group hc hd he hf r
    rw [List.length_cons, List.length_cons, List.length_cons, List.length_cons, padding_group, hgroup,
      decodeFrom_single hr hlen]
    rfl

/-! ## Texts -/

/-- The strict reader does not get past what has no place in a text. -/
theorem decodeFrom_foreign {xs : List Symbol} (hf : .foreign ∈ xs) (hp : .padding ∉ xs) (r : List Symbol)
    (place held pads : Nat) : decodeFrom true place held pads false (xs ++ r) = none := by
  induction xs generalizing place held pads with
  | nil => cases hf
  | cons x xs ih =>
    obtain ⟨hx, hxs⟩ := not_or.mp (mt List.mem_cons.mpr hp)
    cases x with
    | padding => exact (hx rfl).elim
    | foreign => rfl
    | digit n =>
      have hmem : .foreign ∈ xs := (List.mem_cons.mp hf).resolve_left nofun
      have hrest := ih hmem hxs
      simp only [List.cons_append]
      unfold decodeFrom
      split
      · rfl
      · split
        · exact hrest _ _ _
        all_goals rw [hrest]; rfl

/-- **A text without padding is read exactly when it is made of digits and does not end in a single one.** -/
theorem decode_isOk_iff {s : List Char} (hp : '=' ∉ s) :
    (∃ bytes, decode s = .ok bytes) ↔ (∀ c ∈ s, c ∈ alphabet) ∧ s.length % 4 ≠ 1 := by
  constructor
  · rintro ⟨bytes, h⟩
    have hdigits : ∀ c ∈ s, c ∈ alphabet := by
      intro c hc
      unfold decode at h
      split at h
      · cases h
      split at h
      · cases h
      rename_i hascii
      have hlt : c.toNat < 0x80 := by
        have hall := List.any_eq_false.mp (Bool.eq_false_iff.mpr hascii) c hc
        simpa using hall
      -- a character that is neither a digit nor the padding would have stopped the reader
      refine (symbol_of_ascii hlt).resolve_right fun hother => ?_
      have hforeign : symbol c = .foreign := hother.resolve_left fun he => hp (he ▸ hc)
      have hmem : .foreign ∈ s.map symbol := List.mem_map.mpr ⟨c, hc, hforeign⟩
      have hpads : .padding ∉ s.map symbol := by
        intro hm
        obtain ⟨d, hd, he⟩ := List.mem_map.mp hm
        exact symbol_ne_padding (fun hd' => hp (hd' ▸ hd)) he
      simp only [decodeFrom_foreign hmem hpads] at h
      split at h <;> cases h
    refine ⟨hdigits, fun hlen => ?_⟩
    rw [decode_of_digits hdigits, decodeFrom_single hdigits hlen] at h
    cases h
  · rintro ⟨hdigits, hlen⟩
    obtain ⟨bytes, hread, -⟩ := exists_bytes hdigits hlen
    exact ⟨bytes, by rw [decode_of_digits hdigits, hread]⟩

/-- What is read of a text without padding is written with its digits, the unused bits cleared. -/
theorem encode_of_decode {s : List Char} {bytes : List UInt8} (hp : '=' ∉ s) (h : decode s = .ok bytes) :
    encode bytes = cleared s := by
  obtain ⟨hdigits, hlen⟩ := (decode_isOk_iff hp).mp ⟨bytes, h⟩
  obtain ⟨read, hread, hwritten⟩ := exists_bytes hdigits hlen
  rw [decode_of_digits hdigits, hread] at h
  cases h
  exact hwritten

end Text.Base64

/-! ## Payloads -/

namespace Payload

open Text.Base64

theorem bytes_eq_ok {s : Text} {b : List UInt8} : bytes s = .ok b ↔ decode s.chars = .ok b := mapError_eq_ok

/-- Whatever a text is refused for, it is reported as a value outside its domain. -/
theorem kind_of_bytes {s : Text} {e : Error} (h : bytes s = .error e) : e.report.kind = .value := by
  unfold bytes at h
  cases hd : decode s.chars with
  | ok b =>
    rw [hd] at h
    cases h
  | error fault =>
    rw [hd] at h
    cases h
    cases fault <;> rfl

theorem ofChars_digits {s : Text} (h : ∀ c ∈ s.chars, c ∈ alphabet) : s = .ofChars s.chars :=
  (Text.ofChars_chars fun hm => absurd (h _ hm) (by decide)).symm

/-- **What is read of payloads.**  Bytes are written with digits of the URL alphabet and read back.  A text
without padding is read exactly when it is made of such digits and does not end in a single one behind whole
groups; otherwise it is reported as a value outside its domain.  What is read of it is written with its
digits, the unused bits of the last one cleared, and so with the very same digits if they are whole groups. -/
theorem bytes_unpadded :
    (∀ b : List UInt8, (∀ c ∈ encode b, c ∈ alphabet) ∧ bytes (.ofChars (encode b)) = .ok b) ∧
    ∀ s : Text, .char '=' ∉ s.points →
      ((∃ b, bytes s = .ok b) ↔
        ∃ cs, s = .ofChars cs ∧ (∀ c ∈ cs, c ∈ alphabet) ∧ cs.length % 4 ≠ 1) ∧
      (∀ e, bytes s = .error e → e.report.kind = .value) ∧
      ∀ b, bytes s = .ok b →
        ∃ cs, s = .ofChars cs ∧ encode b = cleared cs ∧ (cs.length % 4 = 0 → encode b = cs) := by
  refine ⟨fun b => ⟨mem_encode, bytes_eq_ok.mpr ?_⟩, fun s hpad => ?_⟩
  · rw [Text.chars_ofChars, decode_encode]
  have hp : '=' ∉ s.chars := by
    intro hm
    obtain ⟨p, hp, he⟩ := List.mem_map.mp hm
    cases p with
    | char c => exact hpad ((show c = '=' from he) ▸ hp)
    | lone half => exact absurd he (show '\ufffd' ≠ '=' by decide)
  simp only [bytes_eq_ok]
  refine ⟨?_, fun e => kind_of_bytes, fun b hb => ?_⟩
  · rw [decode_isOk_iff hp]
    constructor
    · rintro ⟨hdigits, hlen⟩
      exact ⟨s.chars, ofChars_digits hdigits, hdigits, hlen⟩
    · rintro ⟨cs, rfl, hdigits, hlen⟩
      rw [Text.chars_ofChars]
      exact ⟨hdigits, hlen⟩
  · obtain ⟨hdigits, -⟩ := (decode_isOk_iff hp).mp ⟨b, hb⟩
    have hwritten := encode_of_decode hp hb
    refine ⟨s.chars, ofChars_digits hdigits, hwritten, fun hwhole => ?_⟩
    rw [hwritten, cleared_of_whole hdigits hwhole]

/-- Of six digits the last one holds four unused bits. -/
theorem bytes_unpadded_six :
    .char '=' ∉ (Text.ofString "c2lm-x").points ∧
      ∃ b, bytes "c2lm-x" = .ok b ∧ encode b = "c2lm-w".toList := by
  have hpad : .char '=' ∉ (Text.ofString "c2lm-x").points := by decide
  obtain ⟨hiff, -, hwritten⟩ := bytes_unpadded.2 "c2lm-x" hpad
  have hdigits : "c2lm-x".toList.all alphabet.contains = true := by decide
  obtain ⟨b, hb⟩ := hiff.mpr ⟨"c2lm-x".toList, rfl,
    fun c hc => List.contains_iff_mem.mp (List.all_eq_true.mp hdigits c hc), by decide⟩
  obtain ⟨cs, hcs, he, -⟩ := hwritten b hb
  have hchars : cs = "c2lm-x".toList := by
    rw [← Text.chars_ofChars cs, ← hcs]
    rfl
  rw [hchars] at he
  exact ⟨hpad, b, hb, he.trans (by decide)⟩

end Payload

end DidRegistry
