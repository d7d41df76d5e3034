import DidRegistry.Number.Basic

/-!
# Whole numbers among numbers

Numbers that are whole compare as whole numbers do, whether they are given as whole numbers or as truth
values.  A binary number is never whole here, even with a fraction of zero.
-/

set_option autoImplicit false

namespace DidRegistry.Number

variable {a b : Number} {k l : Int}

theorem compare?_of_whole (ha : a.whole? = some k) (hb : b.whole? = some l) :
    a.compare? b = some (compare k l) := by
  have hm : ∀ {x : Number} {n : Int}, x.whole? = some n → x.magnitude = .fraction n 1 := by
    intro x n hx
    cases x with
    | real y => cases hx
    | _ => cases hx; rfl
  simp [compare?, hm ha, hm hb]

theorem lt_iff_of_whole (ha : a.whole? = some k) (hb : b.whole? = some l) : a.lt b = true ↔ k < l := by
  simp [lt, compare?_of_whole ha hb, Int.compare_eq_lt]

theorem le_iff_of_whole (ha : a.whole? = some k) (hb : b.whole? = some l) : a.le b = true ↔ k ≤ l := by
  simp only [le, compare?_of_whole ha hb, Bool.or_eq_true, beq_iff_eq, Option.some.injEq,
    Int.compare_eq_lt, Int.compare_eq_eq]
  omega

theorem equals_iff_of_whole (ha : a.whole? = some k) (hb : b.whole? = some l) :
    a.equals b = true ↔ k = l := by
  simp [equals, compare?_of_whole ha hb]

theorem lt_eq_false_iff : (int k).lt (int l) = false ↔ l ≤ k := by
  rw [Bool.eq_false_iff, ne_eq, lt_iff_of_whole rfl rfl, Int.not_lt]

theorem whole?_eq_none : a.whole? = none ↔ ∃ x, a = .real x := by
  cases a <;> simp [whole?]

end DidRegistry.Number
