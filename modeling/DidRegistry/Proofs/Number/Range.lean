import DidRegistry.Proofs.Number
import Mathlib.Tactic.Ring
import Mathlib.Tactic.Positivity

/-!
# The range of binary numbers

A whole number is rounded to the nearest binary number, and it has none when it lies beyond the greatest
one by half a unit in its last place or more: the greatest one is odd, and the tie goes up.

## Results

* `Binary64.le_roundDiv_iff` — when a fraction is rounded up to an even number or beyond.
* `Binary64.ofRatio_infinite_iff` — which whole numbers are out of range.
* `Number.toReal?_eq_none_iff` — **a number has no binary number nearest to it exactly when it is a whole
  number out of range**.
-/

set_option autoImplicit false

namespace DidRegistry

namespace Binary64

/-- The least whole number that is out of range: half a unit in the last place beyond the greatest binary
number. -/
def rangeEnd : Nat := 2 ^ 1024 - 2 ^ 970

theorem roundDiv_le (num den : Nat) : roundDiv num den ≤ num / den + 1 := by
  unfold roundDiv
  dsimp only
  split
  · omega
  split
  · omega
  · omega

theorem div_le_roundDiv (num den : Nat) : num / den ≤ roundDiv num den := by
  unfold roundDiv
  dsimp only
  split
  · omega
  split
  · omega
  · omega

/-- A fraction is rounded up to the even number after `q`, or beyond, when it is halfway there. -/
theorem le_roundDiv_iff {num den q : Nat} (hden : 0 < den) (hodd : q % 2 = 1) :
    q + 1 ≤ roundDiv num den ↔ (2 * q + 1) * den ≤ 2 * num := by
  have hnum : num = den * (num / den) + num % den := (Nat.div_add_mod num den).symm
  have hrest : num % den < den := Nat.mod_lt num hden
  have hhalf : (2 * q + 1) * den = 2 * (den * q) + den := by ring
  rcases Nat.lt_trichotomy (num / den) q with hlt | heq | hgt
  · have hbound : roundDiv num den ≤ num / den + 1 := roundDiv_le num den
    have hmul : den * (num / den) + den ≤ den * q := Nat.mul_le_mul_left den hlt
    omega
  · -- only here the rest decides, and a tie goes up since `q` is odd
    unfold roundDiv
    rw [heq] at hnum ⊢
    dsimp only
    split
    · omega
    split <;> omega
  · have hbound : num / den ≤ roundDiv num den := div_le_roundDiv num den
    have hmul : den * q + den ≤ den * (num / den) := Nat.mul_le_mul_left den hgt
    omega

theorem leadingExponent_one {n : Nat} (hn : n ≠ 0) : leadingExponent n 1 = Nat.log2 n := by
  have hone : Nat.log2 1 = 0 := by decide
  have hpow : 2 ^ Nat.log2 n ≤ n := Nat.log2_self_le hn
  simp [leadingExponent, hone, hpow]

/-- A fraction is out of range by its exponent, or by a significand that is rounded up at the greatest one. -/
theorem ofRatio_infinite_iff {negative : Bool} {num den : Nat} (hnum : num ≠ 0) {e : Int}
    (he : max (leadingExponent num den - 52) leastExponent = e) :
    (∃ t, ofRatio negative num den = .infinity t) ↔
      971 < e ∨ e = 971 ∧ roundDiv (num * Nat.pow 2 (-e).toNat) (den * Nat.pow 2 e.toNat) = Nat.pow 2 53 := by
  have hsplit : ∀ (f : Int) (k : Nat),
      (∃ t, (if greatestExponent < f then infinity negative else finite negative k f) = infinity t) ↔
        971 < f := by
    intro f k
    unfold greatestExponent
    split <;> simp_all
  unfold ofRatio
  rw [if_neg hnum, he]
  dsimp only
  generalize roundDiv (num * Nat.pow 2 (-e).toNat) (den * Nat.pow 2 e.toNat) = m
  by_cases hm : m = Nat.pow 2 53
  · rw [if_pos hm, hsplit, and_iff_left hm]
    omega
  · rw [if_neg hm, hsplit]
    simp [hm]

/-- A whole number is not scaled up, and its unit is a power of two. -/
theorem scale_whole (n k : Nat) :
    n * Nat.pow 2 (-(k : Int)).toNat = n ∧ 1 * Nat.pow 2 (k : Int).toNat = 2 ^ k := by
  simp

/-- A whole number is rounded up to the next power of two when it is half a unit below it, or less. -/
theorem roundDiv_carries_iff {n j : Nat} (hlog : Nat.log2 n = j + 53) :
    roundDiv n (2 ^ (j + 1)) = Nat.pow 2 53 ↔ (2 ^ 54 - 1) * 2 ^ j ≤ n := by
  have hunit : 2 ^ (j + 1) = 2 * 2 ^ j := by ring
  have hhigh : n < 2 ^ 53 * 2 ^ (j + 1) := by
    have hlt : n < 2 ^ (Nat.log2 n + 1) := Nat.lt_log2_self
    rw [hlog] at hlt
    calc n < 2 ^ (j + 53 + 1) := hlt
      _ = 2 ^ 53 * 2 ^ (j + 1) := by ring
  have hdiv : n / 2 ^ (j + 1) < 2 ^ 53 := (Nat.div_lt_iff_lt_mul (by positivity)).mpr hhigh
  have hbound : roundDiv n (2 ^ (j + 1)) ≤ n / 2 ^ (j + 1) + 1 := roundDiv_le n _
  have hup : 2 ^ 53 - 1 + 1 ≤ roundDiv n (2 ^ (j + 1)) ↔ (2 * (2 ^ 53 - 1) + 1) * 2 ^ (j + 1) ≤ 2 * n :=
    le_roundDiv_iff (by positivity) (by decide)
  rw [show Nat.pow 2 53 = 2 ^ 53 - 1 + 1 from rfl]
  omega

theorem rangeEnd_eq : rangeEnd = (2 ^ 54 - 1) * 2 ^ 970 := by
  unfold rangeEnd
  rw [Nat.sub_mul, ← Nat.pow_add, Nat.one_mul]

theorem ofRatio_one_infinite_iff (negative : Bool) (n : Nat) :
    (∃ t, ofRatio negative n 1 = .infinity t) ↔ rangeEnd ≤ n := by
  have hunit : 0 < 2 ^ 970 := pow_pos Nat.two_pos 970
  rw [rangeEnd_eq]
  by_cases hn : n = 0
  · subst hn
    refine iff_of_false ?_ (by omega)
    rintro ⟨t, ht⟩
    cases ht
  have hexp : max (leadingExponent n 1 - 52) leastExponent = (Nat.log2 n : Int) - 52 := by
    rw [leadingExponent_one hn, leastExponent]
    omega
  have hlow : 2 ^ Nat.log2 n ≤ n := Nat.log2_self_le hn
  have hhigh : n < 2 ^ (Nat.log2 n + 1) := Nat.lt_log2_self
  rw [ofRatio_infinite_iff hn hexp]
  rcases Nat.lt_trichotomy (Nat.log2 n) 1023 with hlt | heq | hgt
  · have hle : Nat.log2 n + 1 ≤ 53 + 970 := hlt
    have hpow : 2 ^ (Nat.log2 n + 1) ≤ 2 ^ 53 * 2 ^ 970 :=
      (pow_le_pow_right₀ one_le_two hle).trans_eq (pow_add 2 53 970)
    omega
  · -- the exponent is the greatest one, so the significand decides
    have hlog : Nat.log2 n = 970 + 53 := heq
    have hexponent : (Nat.log2 n : Int) - 52 = (970 + 1 : Nat) := by omega
    rw [hexponent, (scale_whole n _).1, (scale_whole n _).2, roundDiv_carries_iff hlog]
    omega
  · have hle : 54 + 970 ≤ Nat.log2 n := hgt
    have hpow : 2 ^ 54 * 2 ^ 970 ≤ 2 ^ Nat.log2 n :=
      (pow_add 2 54 970).symm.trans_le (pow_le_pow_right₀ one_le_two hle)
    omega

end Binary64

namespace Number

open Binary64

/-! ## Bounds -/

/-- The order of a number and a whole one, by where it stands on the scale. -/
theorem compare?_int (a : Number) (k : Int) :
    a.compare? (.int k) =
      match a.magnitude with
      | .below => some .lt
      | .fraction n d => some (compare n (k * d))
      | .above => some .gt
      | .unordered => none := by
  unfold compare?
  rw [show (int k).magnitude = .fraction k 1 from rfl]
  cases a.magnitude <;> simp

theorem den_pos {a : Number} {n : Int} {d : Nat} (h : a.magnitude = .fraction n d) : 0 < d := by
  cases a with
  | int m =>
    cases h
    exact Nat.one_pos
  | flag b =>
    cases h
    exact Nat.one_pos
  | real x =>
    cases x with
    | nan => cases h
    | infinity s => cases s <;> cases h
    | finite s m e =>
      cases h
      exact Nat.two_pow_pos _

/-- A number that is not below a whole one is above every smaller one, unless it is no number at all. -/
theorem le_eq_false_of_lt {a : Number} {k l : Int} (hkl : k < l) (h : a.lt (.int l) = false) :
    a.le (.int k) = false := by
  unfold lt at h
  unfold le
  rw [compare?_int] at h ⊢
  cases hm : a.magnitude with
  | below => simp [hm] at h
  | above => rfl
  | unordered => rfl
  | fraction n d =>
    have hd : (0 : Int) < d := Int.natCast_pos.mpr (den_pos hm)
    have hle : l * d ≤ n := by simpa [hm, Int.compare_eq_lt] using h
    have hlt : k * d < l * d := Int.mul_lt_mul_of_pos_right hkl hd
    simp [Int.compare_eq_lt]
    omega

theorem lt_eq_false_of_le {a b : Number} (h : a.le b = false) : a.lt b = false := by
  unfold le at h
  exact (Bool.or_eq_false_iff.mp h).1

theorem isNegative_ofRatio (negative : Bool) (num den : Nat) :
    (ofRatio negative num den).isNegative = negative := by
  unfold ofRatio
  split
  · rfl
  · dsimp only
    split <;> split <;> rfl

theorem lt_zero_of_isNegative {x : Binary64} (h : x.isNegative = false) : (real x).lt (.int 0) = false := by
  unfold lt
  rw [compare?_int]
  cases x with
  | nan => rfl
  | infinity s =>
    obtain rfl : s = false := h
    rfl
  | finite s m e =>
    obtain rfl : s = false := h
    simp [magnitude, ratio, Int.compare_eq_lt]

/-! ## The nearest binary number -/

/-- **A number has no binary number nearest to it exactly when it is a whole number out of range.** -/
theorem toReal?_eq_none_iff {a : Number} : a.toReal? = none ↔ ∃ n, a = .int n ∧ rangeEnd ≤ n.natAbs := by
  cases a with
  | real x => simp [toReal?]
  | flag b =>
    refine iff_of_false ?_ (by simp)
    cases b <;> decide
  | int n =>
    have hrange : (∃ t, ofInt n = .infinity t) ↔ rangeEnd ≤ n.natAbs := ofRatio_one_infinite_iff _ _
    simp only [toReal?, whole?, Option.getD_some, int.injEq, exists_eq_left', ← hrange]
    cases ofInt n <;> simp

theorem toReal?_nonneg {a : Number} {x : Binary64} (ha : a.lt (.int 0) = false) (h : a.toReal? = some x) :
    (real x).lt (.int 0) = false := by
  have hwhole : ∀ {n : Int}, a.whole? = some n → (ofInt n).isNegative = false := by
    intro n hn
    have hnonneg : ¬n < 0 := (lt_iff_of_whole hn rfl).not.mp (Bool.eq_false_iff.mp ha)
    unfold ofInt
    rw [isNegative_ofRatio, decide_eq_false hnonneg]
  cases a with
  | real y =>
    cases h
    exact ha
  | flag b | int n =>
    simp only [toReal?, whole?, Option.getD_some] at h
    split at h
    · cases h
    · cases h
      exact lt_zero_of_isNegative (hwhole rfl)

end Number

end DidRegistry
