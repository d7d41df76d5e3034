import DidRegistry.Json.Canonical
import DidRegistry.Json.Reader

/-!
# Reading back strings and whole numbers

What the canonical JSON writes for a string or a whole number is read as that string or number, whatever
comes after it.  A string may hold any character: quotes and backslashes, control characters and what is
no ASCII.  A number ends where its digits do, so what comes after it must not go on with it (`Stops`).

## Results

* `Json.readText_renderChars` — **a string of characters is read back after its opening quote**.
* `Json.readNumber_decimal` — **a whole number is read back after its sign**.
* `Json.readScalar_string`, `Json.readScalar_int` — the same from their first character on.
-/

set_option autoImplicit false

namespace DidRegistry

namespace Json

/-! ## Strings -/

/-- The part of a string that a character is written and read as: the control characters without an
escape of their own are escapes by number, anything else stands for itself. -/
def partOf (c : Char) : Part :=
  if c.toNat < 0x20 ∧ c.toNat ∉ [0x8, 0x9, 0xa, 0xc, 0xd] then .escape c.toNat else .plain (.char c)

/-- The characters with an escape of their own. -/
def escaped : List Char := ['"', '\\', '\x08', '\t', '\n', '\x0c', '\r']

theorem readParts_escaped {c : Char} (h : c ∈ escaped) (r : List Point) :
    readParts ((escapedPoint c.toNat).map .char ++ r) = withPart (partOf c) (readParts r) := by
  simp only [escaped, List.mem_cons, List.not_mem_nil, or_false] at h
  rcases h with rfl | rfl | rfl | rfl | rfl | rfl | rfl <;> simp [escapedPoint, readParts, escape1, partOf]

theorem escape4_hexDigits {n : Nat} (h : n < 0x20) :
    escape4 (.char (Text.hexDigit (n / 0x1000))) (.char (Text.hexDigit (n / 0x100 % 0x10)))
      (.char (Text.hexDigit (n / 0x10 % 0x10))) (.char (Text.hexDigit (n % 0x10))) = some n := by
  simp only [escape4, Point.toChar, Text.hexDigit?_hexDigit _ (show n / 0x1000 < 16 by omega),
    Text.hexDigit?_hexDigit _ (show n / 0x100 % 0x10 < 16 by omega),
    Text.hexDigit?_hexDigit _ (show n / 0x10 % 0x10 < 16 by omega),
    Text.hexDigit?_hexDigit _ (show n % 0x10 < 16 by omega), Option.some.injEq]
  omega

/-- A character that stands for itself is read as it stands. -/
theorem readParts_plain {c : Char} (hquote : c ≠ '"') (hback : c ≠ '\\') (h : ¬ c.toNat < 0x20)
    (r : List Point) : readParts (.char c :: r) = withPart (.plain (.char c)) (readParts r) := by
  have hcode : ¬ (Point.char c).code < 0x20 := h
  rw [readParts.eq_def]
  simp [hquote, hback, hcode]

theorem readParts_escapedPoint (c : Char) (r : List Point) :
    readParts ((escapedPoint c.toNat).map .char ++ r) = withPart (partOf c) (readParts r) := by
  by_cases hc : c ∈ escaped
  · exact readParts_escaped hc r
  have hne : ∀ d ∈ escaped, c.toNat ≠ d.toNat := fun d hd he =>
    hc (by rwa [← Char.ofNat_toNat c, he, Char.ofNat_toNat])
  have hscalar : ¬ (0xd800 ≤ c.toNat ∧ c.toNat < 0xe000) := by
    have hv := c.valid
    simp only [UInt32.isValidChar, Nat.isValidChar] at hv
    have hn : c.toNat = c.val.toNat := rfl
    omega
  have hquote : c.toNat ≠ '"'.toNat := hne '"' (by decide)
  have hback : c.toNat ≠ '\\'.toNat := hne '\\' (by decide)
  have hb : c.toNat ≠ 0x8 := hne '\x08' (by decide)
  have ht : c.toNat ≠ 0x9 := hne '\t' (by decide)
  have hn : c.toNat ≠ 0xa := hne '\n' (by decide)
  have hf : c.toNat ≠ 0xc := hne '\x0c' (by decide)
  have hr : c.toNat ≠ 0xd := hne '\r' (by decide)
  unfold escapedPoint
  rw [if_neg hquote, if_neg hback, if_neg hb, if_neg ht, if_neg hn, if_neg hf, if_neg hr]
  by_cases hlow : c.toNat < 0x20
  · have hpart : partOf c = .escape c.toNat := if_pos ⟨hlow, by simp [hb, ht, hn, hf, hr]⟩
    simp only [if_pos (Or.inl hlow), List.map_cons, List.map_nil, List.cons_append, List.nil_append,
      readParts,
      escape4_hexDigits hlow, hpart]
  · have hpart : partOf c = .plain (.char c) := if_neg fun hp => hlow hp.1
    rw [if_neg (not_or.mpr ⟨hlow, hscalar⟩), Char.ofNat_toNat, hpart]
    exact readParts_plain (fun h => hquote (by rw [h])) (fun h => hback (by rw [h])) hlow r

theorem readParts_renderChars (cs : List Char) (r : List Point) :
    readParts ((cs.flatMap fun c => escapedPoint c.toNat).map .char ++ .char '"' :: r) =
      .ok (cs.map partOf, r) := by
  induction cs with
  | nil => simp [readParts]
  | cons c cs ih =>
    rw [List.flatMap_cons, List.map_append, List.append_assoc, readParts_escapedPoint, ih]
    rfl

/-- An escape that spells no half of a surrogate pair stands for itself. -/
theorem pointsOf_escape {n : Nat} (h : n < 0xd800) (parts : List Part) :
    pointsOf (.escape n :: parts) = (Point.ofCode? n).toList ++ pointsOf parts := by
  rcases parts with _ | ⟨p | m, r⟩
  · rfl
  · rfl
  · rw [pointsOf, if_neg (by omega)]

theorem pointsOf_map_partOf (cs : List Char) : pointsOf (cs.map partOf) = cs.map .char := by
  induction cs with
  | nil => rfl
  | cons c cs ih =>
    rw [List.map_cons, List.map_cons]
    by_cases h : c.toNat < 0x20 ∧ c.toNat ∉ [0x8, 0x9, 0xa, 0xc, 0xd]
    · have hp : partOf c = .escape c.toNat := if_pos h
      rw [hp, pointsOf_escape (by omega), ih, show c.toNat = (Point.char c).code from rfl, Point.ofCode?_code]
      rfl
    · have hp : partOf c = .plain (.char c) := if_neg h
      rw [hp, pointsOf, ih]

/-- **A string of characters is read back after its opening quote.** -/
theorem readText_renderChars (cs : List Char) (r : List Point) :
    readText ((cs.flatMap fun c => escapedPoint c.toNat).map .char ++ .char '"' :: r) =
      .ok (Text.ofChars cs, r) := by
  rw [readText, readParts_renderChars]
  simp only [Except.map, pointsOf_map_partOf]
  rfl

/-! ## Whole numbers -/

/-- What comes after a number does not go on with it. -/
def Stops (r : List Point) : Prop :=
  ∀ p rest, r = p :: rest →
    Text.asciiDigit? p.toChar = none ∧ p ≠ .char '.' ∧ p ≠ .char 'e' ∧ p ≠ .char 'E'

theorem asciiDigit?_decimalDigit : ∀ d < 10, Text.asciiDigit? (Text.decimalDigit d) = some d := by decide

theorem decimalDigit_ne_zero : ∀ d < 10, d ≠ 0 → Text.decimalDigit d ≠ '0' := by decide

/-- The digits that a number is written with: they stand for it, and only zero is written with a zero in
front. -/
theorem exists_digits (n : Nat) :
    ∃ d ds, Text.decimal n = (d :: ds).map Text.decimalDigit ∧ (∀ x ∈ d :: ds, x < 10) ∧
      ofDigits (d :: ds) = n ∧ (d = 0 → n = 0 ∧ ds = []) := by
  fun_induction Text.decimal n with
  | case1 n h => exact ⟨n, [], rfl, by simpa using h, by simp [ofDigits], fun hz => ⟨hz, rfl⟩⟩
  | case2 n h ih =>
    obtain ⟨d, ds, he, hd, hn, hz⟩ := ih
    refine ⟨d, ds ++ [n % 10], by simp [he], ?_, ?_, fun h0 => absurd (hz h0).1 (by omega)⟩
    · intro x hx
      rcases List.mem_append.mp (show x ∈ (d :: ds) ++ [n % 10] from hx) with hx | hx
      · exact hd x hx
      · obtain rfl := List.mem_singleton.mp hx
        omega
    · have hf : ofDigits ((d :: ds) ++ [n % 10]) = ofDigits (d :: ds) * 10 + n % 10 := by
        simp [ofDigits]
      rw [← List.cons_append, hf, hn]
      omega

theorem spanDigits_digits {ds : List Nat} (hd : ∀ d ∈ ds, d < 10) {r : List Point} (hr : Stops r) :
    spanDigits ((ds.map Text.decimalDigit).map .char ++ r) = (ds, r) := by
  have hstop : (r.takeWhile fun p => (Text.asciiDigit? p.toChar).isSome) = [] ∧
      (r.dropWhile fun p => (Text.asciiDigit? p.toChar).isSome) = r := by
    cases r with
    | nil => exact ⟨rfl, rfl⟩
    | cons p rest => simp [(hr p rest rfl).1]
  induction ds with
  | nil => simp [spanDigits, hstop]
  | cons d ds ih =>
    have hdigit : Text.asciiDigit? (Point.char (Text.decimalDigit d)).toChar = some d :=
      asciiDigit?_decimalDigit d (hd d List.mem_cons_self)
    have hrest := ih fun x hx => hd x (List.mem_cons_of_mem _ hx)
    simp only [spanDigits, Prod.mk.injEq] at hrest
    simp only [spanDigits, List.map_cons, List.cons_append, List.takeWhile_cons, List.dropWhile_cons, hdigit,
      Option.isSome_some, if_true, List.filterMap_cons, hrest]

theorem readFraction_stops {r : List Point} (hr : Stops r) : readFraction r = ([], r) := by
  unfold readFraction
  split
  · exact absurd rfl (hr _ _ rfl).2.1
  · rfl

theorem readExponent_stops {r : List Point} (hr : Stops r) : readExponent r = (none, r) := by
  cases r with
  | nil => rfl
  | cons p rest => exact if_neg fun h => h.elim (hr p rest rfl).2.2.1 (hr p rest rfl).2.2.2

/-- **A whole number is read back after its sign.** -/
theorem readNumber_decimal {n : Nat} (hn : (Text.decimal n).length ≤ digitLimit) (negative : Bool)
    {r : List Point} (hr : Stops r) :
    readNumber negative ((Text.decimal n).map .char ++ r) =
      .ok (.int (if negative then -(n : Int) else n), r) := by
  obtain ⟨d, ds, he, hd, hval, hz⟩ := exists_digits n
  have hlen : ¬ digitLimit < (d :: ds).length := by
    rw [he, List.length_map] at hn
    exact Nat.not_lt.mpr hn
  have hfirst : ∀ {s : List Point}, (∀ t, s ≠ .char '0' :: t) → spanDigits s = (d :: ds, r) →
      readNumber negative s = .ok (.int (if negative then -(n : Int) else n), r) := by
    intro s hs hspan
    unfold readNumber
    split
    rename_i hm
    split at hm
    · exact absurd rfl (hs _)
    · rw [hspan] at hm
      cases hm
      simp only [readFraction_stops hr, readExponent_stops hr, List.isEmpty_cons, Bool.false_eq_true,
        if_false, List.isEmpty_nil, Option.isNone_none, Bool.and_self, if_true, if_neg hlen, hval]
  have hzero : readNumber negative (.char '0' :: r) = .ok (.int (if negative then -(0 : Int) else 0), r) := by
    simp [readNumber, readFraction_stops hr, readExponent_stops hr, digitLimit, ofDigits]
  rw [he]
  by_cases h0 : d = 0
  · obtain ⟨rfl, rfl⟩ := hz h0
    subst h0
    exact hzero
  · refine hfirst (fun t ht => ?_) (spanDigits_digits hd hr)
    exact decimalDigit_ne_zero d (hd d List.mem_cons_self) h0 (Point.char.inj (List.cons.inj ht).1)

/-! ## Scalars -/

theorem readScalar_null (r : List Point) :
    readScalar ("null".toList.map .char ++ r) = .ok (.null, r) := by
  rfl

theorem readScalar_bool (b : Bool) (r : List Point) :
    readScalar ((if b then "true".toList else "false".toList).map .char ++ r) = .ok (.bool b, r) := by
  cases b <;> rfl

/-- The characters that words start with. -/
def wordStarts : List Char := ['n', 't', 'f', 'N', 'I', '-']

theorem readWord_eq_none {c : Char} (h : c ∉ wordStarts) (rest : List Point) :
    readWord (.char c :: rest) = none := by
  simp only [wordStarts, List.mem_cons, List.not_mem_nil, or_false, not_or] at h
  obtain ⟨hn, ht, hf, hN, hI, hm⟩ := h
  simp [readWord, words, dropWord, hn, ht, hf, hN, hI, hm]

theorem readWord_minus {c : Char} (h : c ≠ 'I') (rest : List Point) :
    readWord (.char '-' :: .char c :: rest) = none := by
  simp [readWord, words, dropWord, h]

theorem renderString_ofChars (cs : List Char) :
    renderString (Text.ofChars cs) = '"' :: ((cs.flatMap fun c => escapedPoint c.toNat) ++ ['"']) := by
  simp only [renderString, renderPoints, Text.codes, Text.ofChars, List.map_map, List.flatMap_map]
  rfl

/-- **A string is read back.** -/
theorem readScalar_string (cs : List Char) (r : List Point) :
    readScalar ((renderString (Text.ofChars cs)).map .char ++ r) = .ok (.str (Text.ofChars cs), r) := by
  rw [renderString_ofChars]
  simp only [List.map_cons, List.map_append, List.map_nil, List.cons_append, List.append_assoc,
    List.nil_append]
  unfold readScalar
  rw [readWord_eq_none (by decide)]
  simp only [readText_renderChars]
  rfl

theorem decimal_eq_cons (n : Nat) : ∃ d ds, d < 10 ∧ Text.decimal n = Text.decimalDigit d :: ds := by
  obtain ⟨d, ds, he, hd, -, -⟩ := exists_digits n
  exact ⟨d, _, hd d List.mem_cons_self, he⟩

/-- A digit starts nothing but a number, and is no white space. -/
theorem decimalDigit_not_mem : ∀ d < 10,
    Text.decimalDigit d ∉ wordStarts ++ ['"', '[', ']', '\x7b', ' ', '\t', '\n', '\r'] := by
  decide

theorem decimalDigit_ne {d : Nat} (hd : d < 10) {c : Char}
    (hc : c ∈ wordStarts ++ ['"', '[', ']', '\x7b', ' ', '\t', '\n', '\r']) : Text.decimalDigit d ≠ c :=
  fun h => decimalDigit_not_mem d hd (by rwa [h])

/-- **A whole number is read back.** -/
theorem readScalar_int {n : Int} (hn : (Text.decimal n.natAbs).length ≤ digitLimit) {r : List Point}
    (hr : Stops r) : readScalar ((Text.signedDecimal n).map .char ++ r) = .ok (.int n, r) := by
  obtain ⟨d, ds, hd, he⟩ := decimal_eq_cons n.natAbs
  unfold Text.signedDecimal
  split
  · have hword : readWord (.char '-' :: ((Text.decimal n.natAbs).map .char ++ r)) = none := by
      rw [he]
      exact readWord_minus (decimalDigit_ne hd (by decide)) _
    unfold readScalar
    simp only [List.map_cons, List.cons_append, hword, readNumber_decimal hn true hr, if_true]
    rw [show -(n.natAbs : Int) = n by omega]
  · have hword : readWord ((Text.decimal n.natAbs).map .char ++ r) = none := by
      rw [he]
      exact readWord_eq_none (fun h => decimalDigit_not_mem d hd (List.mem_append_left _ h)) _
    have hnumber : readScalar ((Text.decimal n.natAbs).map .char ++ r) =
        readNumber false ((Text.decimal n.natAbs).map .char ++ r) := by
      unfold readScalar
      rw [hword, he]
      simp [decimalDigit_ne hd (show '"' ∈ _ by decide), decimalDigit_ne hd (show '-' ∈ _ by decide)]
    rw [hnumber, readNumber_decimal hn false hr]
    simp only [Bool.false_eq_true, if_false]
    rw [show (n.natAbs : Int) = n by omega]

end Json

end DidRegistry
