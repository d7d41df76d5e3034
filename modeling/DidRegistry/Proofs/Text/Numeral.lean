import DidRegistry.Proofs.Text.Blank
import DidRegistry.Proofs.Text.HexDigits
import DidRegistry.Text.Numeral
import Mathlib.Data.List.Forall2
import Mathlib.Data.Nat.Digits.Defs

/-!
# Hexadecimal numerals

Behind its mark `0x` a hexadecimal numeral has digits, the first of which counts most.  They are read more
freely than they are written: a low line may stand between two of them and in front of the first one, a
decimal digit may be of any script, and white space may follow.

## Results

* `Numeral.digits_eq_some_iff` — what digits with low lines between them are read as, by induction on them.
* `Numeral.ofDigits_reverse` — reading digits from the left adds them up by their places.
* `Numeral.alike_of_plainChar?` — a character means in a numeral what its ASCII spelling means.
* `Numeral.hexadecimal?_eq_some_iff` — **which texts with a mark are numerals, and of which number**.
* `Numeral.spells_of_forall₂`, `Numeral.forall₂_of_spells` — a numeral of hexadecimal digits alone is
  these digits.
* `exists_values` — the digits that are written for a number have its value.
-/

set_option autoImplicit false

namespace DidRegistry.Text

namespace Numeral

/-! ## Runs of digits -/

section

variable {digit? : Char → Option Nat} {s : List Char} {ds es : List Nat} {c : Char} {d base : Nat}

/-- The characters are digits with these values, and single low lines between some of them. -/
inductive Run (digit? : Char → Option Nat) : List Char → List Nat → Prop where
  | single {c : Char} {d : Nat} (value : digit? c = some d) : Run digit? [c] [d]
  | cons {c : Char} {d : Nat} {s : List Char} {ds : List Nat} (value : digit? c = some d)
      (rest : Run digit? s ds) : Run digit? (c :: s) (d :: ds)
  | apart {c : Char} {d : Nat} {s : List Char} {ds : List Nat} (value : digit? c = some d)
      (rest : Run digit? s ds) : Run digit? (c :: '_' :: s) (d :: ds)

theorem Run.exists_cons (h : Run digit? s ds) : ∃ c r d, s = c :: r ∧ digit? c = some d := by
  cases h with
  | single hc => exact ⟨_, _, _, rfl, hc⟩
  | cons hc => exact ⟨_, _, _, rfl, hc⟩
  | apart hc => exact ⟨_, _, _, rfl, hc⟩

theorem Run.ne_nil (h : Run digit? s ds) : s ≠ [] := by
  obtain ⟨_, _, _, rfl, -⟩ := h.exists_cons
  exact List.cons_ne_nil _ _

theorem Run.mem (h : Run digit? s ds) : ∀ c ∈ s, (digit? c).isSome ∨ c = '_' := by
  induction h with
  | single hc => simp [hc]
  | cons hc _ ih => exact List.forall_mem_cons.mpr ⟨.inl (by simp [hc]), ih⟩
  | apart hc _ ih =>
    exact List.forall_mem_cons.mpr ⟨.inl (by simp [hc]), List.forall_mem_cons.mpr ⟨.inr rfl, ih⟩⟩

theorem run_of_forall₂ (h : List.Forall₂ (fun c d => digit? c = some d) s ds) (hs : s ≠ []) :
    Run digit? s ds := by
  induction h with
  | nil => exact (hs rfl).elim
  | @cons c d s ds hc hrest ih =>
    by_cases hnil : s = []
    · subst hnil
      cases hrest
      exact .single hc
    · exact .cons hc (ih hnil)

/-- Digits may be written with other characters for the same values. -/
theorem Run.respelled {other? : Char → Option Nat} {p : List Char} (h : Run digit? s ds)
    (hp : List.Forall₂ (fun c d => other? d = digit? c ∧ (c = '_' → d = '_')) s p) : Run other? p ds := by
  induction h generalizing p with
  | single hc =>
    cases hp with
    | cons hd hrest =>
      cases hrest
      exact .single (hd.1.trans hc)
  | cons hc _ ih =>
    cases hp with
    | cons hd hrest => exact .cons (hd.1.trans hc) (ih hrest)
  | apart hc _ ih =>
    cases hp with
    | cons hd hrest =>
      cases hrest with
      | cons hl hrest =>
        obtain rfl := hl.2 rfl
        exact .apart (hd.1.trans hc) (ih hrest)

/-- What may stand where a run is read: the run, or the rest of it after a digit. -/
def Follows (digit? : Char → Option Nat) (afterDigit : Bool) (s : List Char) (ds : List Nat) : Prop :=
  Run digit? s ds ∨ afterDigit = true ∧ (s = [] ∧ ds = [] ∨ ∃ r, s = '_' :: r ∧ Run digit? r ds)

theorem follows_false : Follows digit? false s ds ↔ Run digit? s ds := by
  simp [Follows]

theorem follows_nil (afterDigit : Bool) : Follows digit? afterDigit [] ds ↔ afterDigit = true ∧ ds = [] := by
  have hnone : ¬Run digit? [] ds := fun h => h.ne_nil rfl
  simp [Follows, hnone]

/-- A low line stands after a digit, and the run goes on behind it. -/
theorem follows_lowLine (hlow : digit? '_' = none) (afterDigit : Bool) :
    Follows digit? afterDigit ('_' :: s) ds ↔ afterDigit = true ∧ Run digit? s ds := by
  have hnone : ¬Run digit? ('_' :: s) ds := fun h => by
    obtain ⟨_, _, _, he, hd⟩ := h.exists_cons
    cases he
    cases hlow.symm.trans hd
  simp [Follows, hnone]

/-- Behind a digit there is nothing, or the run goes on. -/
theorem follows_digit (hc : digit? c = some d) (hne : c ≠ '_') (afterDigit : Bool) :
    Follows digit? afterDigit (c :: s) es ↔ ∃ ds, es = d :: ds ∧ Follows digit? true s ds := by
  have hrun : Run digit? (c :: s) es ↔ ∃ ds, es = d :: ds ∧ Follows digit? true s ds := by
    constructor
    · intro h
      cases h with
      | single hd =>
        exact ⟨[], by rw [Option.some.inj (hc.symm.trans hd)], .inr ⟨rfl, .inl ⟨rfl, rfl⟩⟩⟩
      | cons hd hrest => exact ⟨_, by rw [Option.some.inj (hc.symm.trans hd)], .inl hrest⟩
      | apart hd hrest =>
        exact ⟨_, by rw [Option.some.inj (hc.symm.trans hd)], .inr ⟨rfl, .inr ⟨_, rfl, hrest⟩⟩⟩
    · rintro ⟨ds, rfl, hrest | ⟨-, ⟨rfl, rfl⟩ | ⟨r, rfl, hrest⟩⟩⟩
      · exact .cons hc hrest
      · exact .single hc
      · exact .apart hc hrest
  rw [← hrun]
  simp [Follows, hne]

theorem not_follows (hc : digit? c = none) (hne : c ≠ '_') (afterDigit : Bool) :
    ¬Follows digit? afterDigit (c :: s) ds := by
  rintro (h | ⟨-, ⟨h, -⟩ | ⟨r, h, -⟩⟩)
  · obtain ⟨_, _, _, he, hd⟩ := h.exists_cons
    cases he
    cases hc.symm.trans hd
  · cases h
  · exact hne (List.cons.inj h).1

/-- **What digits with low lines between them are read as.** -/
theorem digits_eq_some_iff (hlow : digit? '_' = none) {afterDigit : Bool} {value count n k : Nat} :
    digits digit? base afterDigit value count s = some (n, k) ↔
      ∃ ds, Follows digit? afterDigit s ds ∧ n = ds.foldl (fun n d => n * base + d) value ∧
        k = count + ds.length := by
  fun_induction digits digit? base afterDigit value count s with
  | case1 value count => simp [follows_nil, eq_comm]
  | case2 afterDigit value count h => simp [follows_nil, h]
  | case3 value count r ih => rw [ih]; simp only [follows_lowLine hlow, follows_false, true_and]
  | case4 afterDigit value count r h => simp [follows_lowLine hlow, h]
  | case5 afterDigit value count c r hne d hd ih =>
    rw [ih]
    simp only [follows_digit hd hne]
    constructor
    · rintro ⟨ds, hds, rfl, rfl⟩
      exact ⟨d :: ds, ⟨ds, rfl, hds⟩, rfl, by rw [List.length_cons]; omega⟩
    · rintro ⟨_, ⟨ds, rfl, hds⟩, rfl, rfl⟩
      exact ⟨ds, hds, rfl, by rw [List.length_cons]; omega⟩
  | case6 afterDigit value count c r hne hd => simp [not_follows hd hne]

/-- Reading digits from the left adds them up by their places, the last one counting least. -/
theorem ofDigits_reverse (base : Nat) (ds : List Nat) :
    Nat.ofDigits base ds.reverse = ds.foldl (fun n d => n * base + d) 0 := by
  rw [Nat.ofDigits_eq_foldr, List.foldr_reverse]
  congr 1
  funext n d
  rw [Nat.cast_id, Nat.mul_comm, Nat.add_comm]

end

/-! ## ASCII spelling -/

section

variable {c d : Char} {s p : List Char} {ds : List Nat}

/-- The value of a digit of a hexadecimal numeral: a decimal digit may be of any script. -/
def wideDigit? (c : Char) : Option Nat := (hexDigit? c).or (decimalDigit? c)

/-- White space behind a numeral; the information separators do not count. -/
def isGap (c : Char) : Bool := isAsciiBlank c || (0x7f ≤ c.toNat && isBlank c)

theorem wideDigit?_of_lt (h : c.toNat < 0x7f) : wideDigit? c = hexDigit? c := by
  have hall : ∀ n < 0x7f, wideDigit? (Char.ofNat n) = hexDigit? (Char.ofNat n) := by decide +kernel
  simpa only [Char.ofNat_toNat] using hall c.toNat h

theorem hexDigit?_of_le (h : 0x7f ≤ c.toNat) : hexDigit? c = none := by
  rw [← Option.not_isSome_iff_eq_none]
  intro hc
  exact absurd (toNat_lt_of_hexDigit hc) (Nat.not_lt.mpr h)

theorem decimalDigit?_of_isBlank (h : 0x7f ≤ c.toNat) (hb : isBlank c = true) : decimalDigit? c = none := by
  have hcode : c.toNat ∈ [0x85, 0xa0, 0x1680, 0x2000, 0x2001, 0x2002, 0x2003, 0x2004, 0x2005, 0x2006, 0x2007,
      0x2008, 0x2009, 0x200a, 0x2028, 0x2029, 0x202f, 0x205f, 0x3000] := by
    simp only [isBlank, Bool.or_eq_true, Bool.and_eq_true, decide_eq_true_eq, beq_iff_eq] at hb
    simp only [List.mem_cons, List.not_mem_nil, or_false]
    omega
  have hnone : ∀ n ∈ [0x85, 0xa0, 0x1680, 0x2000, 0x2001, 0x2002, 0x2003, 0x2004, 0x2005, 0x2006, 0x2007,
      0x2008, 0x2009, 0x200a, 0x2028, 0x2029, 0x202f, 0x205f, 0x3000],
      (decimalZeros.find? fun z => z ≤ n && n < z + 10) = none := by
    decide +kernel
  rw [decimalDigit?, hnone _ hcode]
  rfl

theorem decimalDigit?_lt {n : Nat} (h : decimalDigit? c = some n) : n < 10 := by
  obtain ⟨z, hz, rfl⟩ := Option.map_eq_some_iff.mp h
  have := List.find?_some hz
  simp only [Bool.and_eq_true, decide_eq_true_eq] at this
  omega

/-- The character is spelled in ASCII as the other one, and means the same in a numeral. -/
structure Alike (c d : Char) : Prop where
  digit : hexDigit? d = wideDigit? c
  gap : isAsciiBlank d = isGap c
  low : d = '_' ↔ c = '_'

theorem alike_of_plainChar? (h : plainChar? c = some d) : Alike c d := by
  by_cases hlt : c.toNat < 0x7f
  · rw [plainChar?, if_pos hlt] at h
    cases h
    exact ⟨(wideDigit?_of_lt hlt).symm, by simp [isGap, Nat.not_le.mpr hlt], Iff.rfl⟩
  · have hle : 0x7f ≤ c.toNat := Nat.not_lt.mp hlt
    have hlow : c ≠ '_' := by
      rintro rfl
      exact hlt (by decide)
    have hascii : isAsciiBlank c = false := by
      simp only [isAsciiBlank, Bool.or_eq_false_iff, Bool.and_eq_false_iff, decide_eq_false_iff_not,
        beq_eq_false_iff_ne]
      omega
    rw [plainChar?, if_neg hlt] at h
    by_cases hb : isBlank c = true
    · rw [if_pos hb] at h
      cases h
      refine ⟨?_, by simp [isGap, hle, hb]; decide, by simp [hlow]⟩
      rw [wideDigit?, hexDigit?_of_le hle, decimalDigit?_of_isBlank hle hb]
      decide
    · rw [if_neg hb] at h
      obtain ⟨n, hn, rfl⟩ := Option.map_eq_some_iff.mp h
      have hdigit : ∀ n < 10, hexDigit? (decimalDigit n) = some n ∧ isAsciiBlank (decimalDigit n) = false ∧
          decimalDigit n ≠ '_' := by decide
      obtain ⟨hvalue, hgap, hne⟩ := hdigit n (decimalDigit?_lt hn)
      refine ⟨?_, ?_, by simp [hlow, hne]⟩
      · rw [hvalue, wideDigit?, hexDigit?_of_le hle, hn]
        rfl
      · simp [hgap, isGap, hascii, hb]

/-- Digits and white space are spelled in ASCII. -/
theorem exists_plainChar? (h : (wideDigit? c).isSome ∨ c = '_' ∨ isGap c = true) :
    ∃ d, plainChar? c = some d := by
  unfold plainChar?
  split
  · exact ⟨c, rfl⟩
  · rename_i hlt
    split
    · exact ⟨' ', rfl⟩
    · rename_i hb
      have hle : 0x7f ≤ c.toNat := Nat.not_lt.mp hlt
      rcases h with h | rfl | h
      · rw [wideDigit?, hexDigit?_of_le hle, Option.none_or] at h
        obtain ⟨n, hn⟩ := Option.isSome_iff_exists.mp h
        exact ⟨decimalDigit n, by rw [hn]; rfl⟩
      · exact absurd (by decide) hlt
      · simp only [isGap, hb, Bool.and_false, Bool.or_false, isAsciiBlank, Bool.or_eq_true, Bool.and_eq_true,
          decide_eq_true_eq, beq_iff_eq] at h
        omega

/-- The numeral is spelled in ASCII character by character. -/
abbrev Plainly (s p : List Char) : Prop := List.Forall₂ (fun c d => plainChar? c = some d) s p

theorem plain_of_plainly (h : Plainly s p) : plain s = p := by
  induction h with
  | nil => rfl
  | cons hc _ ih => rw [plain, hc, ih]

theorem plainly_plain (h : '?' ∉ plain s) : Plainly s (plain s) := by
  induction s with
  | nil => exact .nil
  | cons c s ih =>
    unfold plain at h ⊢
    split
    · rename_i d hc
      rw [hc] at h
      exact .cons hc (ih fun hm => h (List.mem_cons_of_mem _ hm))
    · rename_i hc
      rw [hc] at h
      exact (h List.mem_cons_self).elim

theorem exists_plainly (h : ∀ c ∈ s, ∃ d, plainChar? c = some d) : ∃ p, Plainly s p := by
  induction s with
  | nil => exact ⟨[], .nil⟩
  | cons c s ih =>
    obtain ⟨⟨d, hd⟩, hrest⟩ := List.forall_mem_cons.mp h
    obtain ⟨p, hp⟩ := ih hrest
    exact ⟨d :: p, .cons hd hp⟩

theorem run_plainly_iff (h : Plainly s p) : Run hexDigit? p ds ↔ Run wideDigit? s ds := by
  constructor
  · intro hrun
    refine hrun.respelled (List.Forall₂.flip (h.imp fun c d hc => ?_))
    exact ⟨(alike_of_plainChar? hc).digit.symm, (alike_of_plainChar? hc).low.mp⟩
  · intro hrun
    refine hrun.respelled (h.imp fun c d hc => ?_)
    exact ⟨(alike_of_plainChar? hc).digit, (alike_of_plainChar? hc).low.mpr⟩

theorem gap_plainly_iff (h : Plainly s p) : (∀ c ∈ p, isAsciiBlank c = true) ↔ ∀ c ∈ s, isGap c = true := by
  induction h with
  | nil => simp
  | cons hc _ ih => simp only [List.forall_mem_cons, ih, (alike_of_plainChar? hc).gap]

theorem front_plainly_iff (h : Plainly s p) : p = [] ∨ p = ['_'] ↔ s = [] ∨ s = ['_'] := by
  cases h with
  | nil => simp
  | cons hc hrest =>
    cases hrest with
    | nil => simp [(alike_of_plainChar? hc).low]
    | cons => simp

theorem Plainly.append {s' p' : List Char} (h : Plainly s p) (h' : Plainly s' p') :
    Plainly (s ++ s') (p ++ p') :=
  List.rel_append h h'

theorem Plainly.exists_append {p' : List Char} (h : Plainly s (p ++ p')) :
    ∃ u v, s = u ++ v ∧ Plainly u p ∧ Plainly v p' :=
  ⟨_, _, (List.take_append_drop p.length s).symm, List.forall₂_take_append s p p' h,
    List.forall₂_drop_append s p p' h⟩

end

/-! ## Numerals with a mark -/

section

variable {t : Text} {s r : List Char} {ds : List Nat} {n : Int}

/-- The characters behind a mark spell the digits: there may be a low line in front of them, there may be
single ones between them, and white space may follow. -/
inductive Spells : List Char → List Nat → Prop where
  | intro {front run gap : List Char} {ds : List Nat} (low : front = [] ∨ front = ['_'])
      (digits : Run wideDigit? run ds) (blank : ∀ c ∈ gap, isGap c = true) : Spells (front ++ run ++ gap) ds

theorem dropHexMark_front (low : s = [] ∨ s = ['_']) (h : Run hexDigit? r ds) :
    dropHexMark ('0' :: 'x' :: (s ++ r)) = r := by
  rcases low with rfl | rfl
  · obtain ⟨c, r, d, rfl, hd⟩ := h.exists_cons
    have hc : c ≠ '_' := by
      rintro rfl
      cases hd
    simp [dropHexMark, hc]
  · rfl

theorem exists_front (s : List Char) :
    ∃ front, (front = [] ∨ front = ['_']) ∧ s = front ++ dropHexMark ('0' :: 'x' :: s) := by
  simp only [dropHexMark, true_or, if_true]
  split
  · exact ⟨['_'], .inr rfl, rfl⟩
  · exact ⟨[], .inl rfl, rfl⟩

theorem exists_trim_marked (s : List Char) :
    ∃ inner gap, trim isAsciiBlank ('0' :: 'x' :: s) = '0' :: 'x' :: inner ∧ s = inner ++ gap ∧
      ∀ c ∈ gap, isAsciiBlank c = true := by
  obtain ⟨before, gap, hs, hbefore, hgap⟩ := exists_trim isAsciiBlank ('0' :: 'x' :: s)
  cases before with
  | cons c before =>
    cases (List.cons.inj hs).1
    cases hbefore _ List.mem_cons_self
  | nil =>
    generalize trim isAsciiBlank ('0' :: 'x' :: s) = u at hs ⊢
    match u, hs with
    | [], hs =>
      obtain rfl : '0' :: 'x' :: s = gap := hs
      cases hgap _ List.mem_cons_self
    | [_], hs =>
      obtain rfl : 'x' :: s = gap := (List.cons.inj hs).2
      cases hgap _ List.mem_cons_self
    | _ :: _ :: inner, hs =>
      cases hs
      exact ⟨inner, gap, rfl, rfl, hgap⟩

theorem hexDigit?_of_isAsciiBlank {c : Char} (h : isAsciiBlank c = true) : hexDigit? c = none := by
  have hall : ∀ n < 0x21, isAsciiBlank (Char.ofNat n) = true → hexDigit? (Char.ofNat n) = none := by decide
  have hlt : c.toNat < 0x21 := by
    simp only [isAsciiBlank, Bool.or_eq_true, Bool.and_eq_true, decide_eq_true_eq, beq_iff_eq] at h
    omega
  have hc := hall c.toNat hlt
  rw [Char.ofNat_toNat] at hc
  exact hc h

theorem Run.not_blank (h : Run hexDigit? r ds) : ∀ c ∈ r, isAsciiBlank c = false := by
  intro c hc
  rcases h.mem c hc with hd | rfl
  · rw [Bool.eq_false_iff]
    intro hb
    simp [hexDigit?_of_isAsciiBlank hb] at hd
  · decide

/-- What is read of a numeral once white space is trimmed off. -/
theorem hexadecimal?_of_trim (ht : t.chars = '0' :: 'x' :: s)
    (htrim : trim isAsciiBlank ('0' :: 'x' :: plain s) = '0' :: 'x' :: r) :
    hexadecimal? t =
      (digits hexDigit? 16 false 0 0 (dropHexMark ('0' :: 'x' :: r))).map fun (n, _) => (n : Int) := by
  have hplain : plain t.chars = '0' :: 'x' :: plain s := by
    rw [ht]
    rfl
  simp only [hexadecimal?, hplain, htrim]
  rfl

theorem hexadecimal?_of_spells (ht : t.chars = '0' :: 'x' :: s) (h : Spells s ds) :
    hexadecimal? t = some (Nat.ofDigits 16 ds.reverse : Nat) := by
  obtain ⟨hfront, hrun, hgap⟩ := h
  rename_i front run gap
  obtain ⟨f, hf⟩ := exists_plainly fun c (hc : c ∈ front) => exists_plainChar? (by
    rcases hfront with rfl | rfl
    · cases hc
    · exact .inr (.inl (List.mem_singleton.mp hc)))
  obtain ⟨u, hu⟩ := exists_plainly fun c hc => exists_plainChar? ((hrun.mem c hc).imp_right .inl)
  obtain ⟨g, hg⟩ := exists_plainly fun c hc => exists_plainChar? (.inr (.inr (hgap c hc)))
  have hplain : plain (front ++ run ++ gap) = f ++ u ++ g := plain_of_plainly ((hf.append hu).append hg)
  have hlow := (front_plainly_iff hf).mpr hfront
  have hdigits := (run_plainly_iff hu).mpr hrun
  have htrim : trim isAsciiBlank ('0' :: 'x' :: plain (front ++ run ++ gap)) = '0' :: 'x' :: (f ++ u) := by
    rw [hplain]
    refine trim_append (s := '0' :: 'x' :: (f ++ u)) (fun c hc => ?_) ((gap_plainly_iff hg).mpr hgap)
    simp only [List.mem_cons, List.mem_append] at hc
    rcases hc with rfl | rfl | hc | hc
    · decide
    · decide
    · rcases hlow with rfl | rfl
      · cases hc
      · cases List.mem_singleton.mp hc
        decide
    · exact hdigits.not_blank c hc
  rw [hexadecimal?_of_trim ht htrim, dropHexMark_front hlow hdigits,
    (digits_eq_some_iff rfl).mpr ⟨ds, follows_false.mpr hdigits, rfl, rfl⟩, ← ofDigits_reverse]
  rfl

theorem exists_spells (ht : t.chars = '0' :: 'x' :: s) (h : hexadecimal? t = some n) :
    ∃ ds, Spells s ds ∧ n = (Nat.ofDigits 16 ds.reverse : Nat) := by
  obtain ⟨inner, gap, htrim, hinner, hgap⟩ := exists_trim_marked (plain s)
  rw [hexadecimal?_of_trim ht htrim] at h
  obtain ⟨⟨value, count⟩, hread, rfl⟩ := Option.map_eq_some_iff.mp h
  obtain ⟨ds, hrun, rfl, -⟩ := (digits_eq_some_iff rfl).mp hread
  rw [follows_false] at hrun
  obtain ⟨front, hlow, hfront⟩ := exists_front inner
  generalize dropHexMark ('0' :: 'x' :: inner) = run at hrun hfront
  subst hfront
  -- the character that stands for those without a place in a numeral is not there
  have hplain : Plainly s (front ++ run ++ gap) := by
    rw [← hinner]
    refine plainly_plain fun hm => ?_
    rw [hinner, List.mem_append, List.mem_append] at hm
    rcases hm with (hm | hm) | hm
    · rcases hlow with rfl | rfl
      · cases hm
      · cases List.mem_singleton.mp hm
    · rcases hrun.mem _ hm with hd | hd
      · cases hd
      · cases hd
    · cases hgap _ hm
  obtain ⟨_, g, rfl, hu, hg⟩ := hplain.exists_append
  obtain ⟨f, u, rfl, hf, hu⟩ := hu.exists_append
  refine ⟨ds, .intro ((front_plainly_iff hf).mp hlow) ((run_plainly_iff hu).mp hrun)
    ((gap_plainly_iff hg).mp hgap), ?_⟩
  rw [ofDigits_reverse]

/-- **Which texts with a mark are numerals, and of which number.** -/
theorem hexadecimal?_eq_some_iff (ht : t.chars = '0' :: 'x' :: s) :
    hexadecimal? t = some n ↔ ∃ ds, Spells s ds ∧ n = (Nat.ofDigits 16 ds.reverse : Nat) := by
  constructor
  · exact exists_spells ht
  · rintro ⟨ds, hds, rfl⟩
    exact hexadecimal?_of_spells ht hds

end

/-! ## Hexadecimal digits alone -/

section

variable {s : List Char} {ds : List Nat}

theorem wideDigit?_of_hexDigit? {c : Char} {d : Nat} (h : hexDigit? c = some d) : wideDigit? c = some d := by
  rw [wideDigit?, h, Option.some_or]

theorem hexDigit?_of_isGap {c : Char} (h : isGap c = true) : hexDigit? c = none := by
  simp only [isGap, Bool.or_eq_true, Bool.and_eq_true, decide_eq_true_eq] at h
  rcases h with h | ⟨h, -⟩
  · exact hexDigit?_of_isAsciiBlank h
  · exact hexDigit?_of_le h

theorem isSome_of_forall₂ (h : List.Forall₂ (fun c d => hexDigit? c = some d) s ds) :
    ∀ c ∈ s, (hexDigit? c).isSome := by
  induction h with
  | nil => simp
  | cons hd _ ih => exact List.forall_mem_cons.mpr ⟨by rw [hd]; rfl, ih⟩

/-- Hexadecimal digits are a numeral. -/
theorem spells_of_forall₂ (h : List.Forall₂ (fun c d => hexDigit? c = some d) s ds) (hs : s ≠ []) :
    Spells s ds := by
  have hrun := run_of_forall₂ (h.imp fun _ _ hd => wideDigit?_of_hexDigit? hd) hs
  simpa using Spells.intro (.inl rfl) hrun (List.forall_mem_nil _)

theorem Run.forall₂ (h : Run wideDigit? s ds) (hs : ∀ c ∈ s, (hexDigit? c).isSome) :
    List.Forall₂ (fun c d => hexDigit? c = some d) s ds := by
  -- what a hexadecimal digit is read as by the wider reader is its own value
  have hvalue : ∀ {c : Char} {d : Nat}, wideDigit? c = some d → (hexDigit? c).isSome →
      hexDigit? c = some d := by
    intro c d hd hc
    obtain ⟨e, he⟩ := Option.isSome_iff_exists.mp hc
    rw [← hd, he, wideDigit?_of_hexDigit? he]
  induction h with
  | single hd => exact .cons (hvalue hd (hs _ List.mem_cons_self)) .nil
  | cons hd _ ih =>
    obtain ⟨hc, hs⟩ := List.forall_mem_cons.mp hs
    exact .cons (hvalue hd hc) (ih hs)
  | apart => cases hs '_' (.tail _ (.head _))

/-- A numeral of hexadecimal digits alone has neither low lines nor white space. -/
theorem forall₂_of_spells (h : Spells s ds) (hs : ∀ c ∈ s, (hexDigit? c).isSome) :
    List.Forall₂ (fun c d => hexDigit? c = some d) s ds ∧ s ≠ [] := by
  obtain ⟨hfront, hrun, hgap⟩ := h
  rename_i front run gap
  obtain rfl : front = [] := by
    rcases hfront with rfl | rfl
    · rfl
    · cases hs '_' (.head _)
  obtain rfl : gap = [] := by
    refine List.eq_nil_iff_forall_not_mem.mpr fun c hc => ?_
    have hd := hs c (List.mem_append_right _ hc)
    rw [hexDigit?_of_isGap (hgap c hc)] at hd
    cases hd
  rw [List.nil_append, List.append_nil] at hs ⊢
  exact ⟨hrun.forall₂ hs, hrun.ne_nil⟩

theorem lt_of_forall₂ (h : List.Forall₂ (fun c d => hexDigit? c = some d) s ds) : ∀ d ∈ ds, d < 16 := by
  induction h with
  | nil => simp
  | cons hd _ ih => exact List.forall_mem_cons.mpr ⟨hexDigit?_lt hd, ih⟩

end

end Numeral

/-! ## Written digits -/

section

variable {n : Nat}

theorem mem_hexadecimal {c : Char} (h : c ∈ hexadecimal n) : ∃ d < 16, c = hexDigit d := by
  fun_induction hexadecimal n with
  | case1 n hn => exact ⟨n, hn, List.mem_singleton.mp h⟩
  | case2 n hn ih =>
    rcases List.mem_append.mp h with h | h
    · exact ih h
    · exact ⟨n % 16, Nat.mod_lt n (by decide), List.mem_singleton.mp h⟩

/-- The digits that are written are those of the number, from the highest one down. -/
theorem hexadecimal_eq_digits (hn : n ≠ 0) : hexadecimal n = ((Nat.digits 16 n).map hexDigit).reverse := by
  fun_induction hexadecimal n with
  | case1 n h =>
    rw [Nat.digits_of_lt 16 n hn h]
    rfl
  | case2 n h ih =>
    rw [ih (by omega), Nat.digits_def' (by decide) (Nat.pos_of_ne_zero hn), List.map_cons, List.reverse_cons]

theorem hexadecimal_zero : hexadecimal 0 = ['0'] := by
  unfold hexadecimal
  rfl

theorem hexadecimal_ne_nil (n : Nat) : hexadecimal n ≠ [] := by
  unfold hexadecimal
  split <;> simp

/-- The digits that are written for a number have its value. -/
theorem exists_values (n : Nat) : ∃ ds, List.Forall₂ (fun c d => hexDigit? c = some d) (hexadecimal n) ds ∧
    Nat.ofDigits 16 ds.reverse = n := by
  by_cases hn : n = 0
  · subst hn
    rw [hexadecimal_zero]
    exact ⟨[0], .cons rfl .nil, rfl⟩
  · refine ⟨(Nat.digits 16 n).reverse, ?_, by rw [List.reverse_reverse, Nat.ofDigits_digits]⟩
    rw [hexadecimal_eq_digits hn, List.forall₂_reverse_iff, List.forall₂_map_left_iff, List.forall₂_same]
    exact fun d hd => hexDigit?_hexDigit d (Nat.digits_lt_base (by decide) hd)

end

end DidRegistry.Text
