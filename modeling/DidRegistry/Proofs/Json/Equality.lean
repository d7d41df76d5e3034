import Mathlib.Data.List.Forall2
import Mathlib.Data.List.Perm.Subperm
import DidRegistry.Json.Equality
import DidRegistry.Schema
import DidRegistry.Proofs.Number
import DidRegistry.Proofs.Json.Keys

/-!
# What counts as equal and is not the same

Two JSON values are the same when they are of one kind and hold the same: the same truth value, equal
numbers, the same text, the same items in the same order, the same keys with the same values.  Whether a
number is spelt with a fraction makes no difference, since JSON has one kind of number.

More than that counts as equal, for a truth value counts as 0 or 1.  That is the one difference there is,
and it can be anywhere inside of lists and objects.

## Results

* `Json.same_iff_of_equals` — **values that count as equal are the same, unless somewhere in them a truth
  value stands for a number**.
* `Json.Coerced.mistakable` — that takes a truth value, a zero or a one in either of them.
-/

set_option autoImplicit false

namespace DidRegistry.Json

/-- Two values are the same JSON value: of the same kind at every depth, with the same in them. -/
inductive Same : Json → Json → Prop where
  | null : Same .null .null
  | bool (b : Bool) : Same (.bool b) (.bool b)
  | number {x y : Json} {m n : Number} (left : Schema.properNumber? x = some m)
      (right : Schema.properNumber? y = some n) (equal : m.equals n = true) : Same x y
  | str (s : Text) : Same (.str s) (.str s)
  | arr {xs ys : List Json} (items : List.Forall₂ Same xs ys) : Same (.arr xs) (.arr ys)
  | obj {xs ys : Members} (keys : ∀ k, (xs.get? k).isSome = (ys.get? k).isSome)
      (values : ∀ k x y, xs.get? k = some x → ys.get? k = some y → Same x y) : Same (.obj xs) (.obj ys)

/-- Somewhere in two values one has a truth value where the other has a number. -/
inductive Coerced : Json → Json → Prop where
  | flag (b : Bool) {y : Json} {n : Number} (number : Schema.properNumber? y = some n) : Coerced (.bool b) y
  | number {x : Json} {n : Number} (number : Schema.properNumber? x = some n) (b : Bool) : Coerced x (.bool b)
  | item {xs ys : List Json} {x y : Json} (both : (x, y) ∈ xs.zip ys) (inner : Coerced x y) :
      Coerced (.arr xs) (.arr ys)
  | member {xs ys : Members} {k : Text} {x y : Json} (left : xs.get? k = some x) (right : ys.get? k = some y)
      (inner : Coerced x y) : Coerced (.obj xs) (.obj ys)

/-- A value that another one can be mistaken for: somewhere in it is a truth value, or a number that a
truth value counts as. -/
inductive Mistakable : Json → Prop where
  | flag (b : Bool) : Mistakable (.bool b)
  | number {y : Json} {n : Number} (b : Bool) (number : Schema.properNumber? y = some n)
      (equal : (Number.flag b).equals n = true) : Mistakable y
  | item {ys : List Json} {y : Json} (mem : y ∈ ys) (inner : Mistakable y) : Mistakable (.arr ys)
  | member {ys : Members} {k : Text} {y : Json} (mem : ys.get? k = some y) (inner : Mistakable y) :
      Mistakable (.obj ys)

/-! ## Lists and objects -/

theorem equalItems_iff {xs ys : List Json} :
    equalItems xs ys = true ↔ List.Forall₂ (fun x y => x.equals y = true) xs ys := by
  induction xs generalizing ys with
  | nil => cases ys <;> simp [equalItems]
  | cons x xs ih => cases ys <;> simp [equalItems, ih]

theorem equalMembers_iff {xs ys : Members} :
    equalMembers xs ys = true ↔ ∀ m ∈ xs, ∃ y, ys.get? m.1 = some y ∧ m.2.equals y = true := by
  induction xs with
  | nil => simp [equalMembers]
  | cons m xs ih =>
    obtain ⟨k, x⟩ := m
    rw [equalMembers, Bool.and_eq_true, ih, List.forall_mem_cons]
    refine and_congr_left fun _ => ?_
    show _ ↔ ∃ y, ys.lookup k = some y ∧ x.equals y = true
    cases ys.lookup k <;> simp

theorem equals_obj_iff {xs ys : Members} :
    Json.equals (.obj xs) (.obj ys) = true ↔
      xs.length = ys.length ∧ ∀ m ∈ xs, ∃ y, ys.get? m.1 = some y ∧ m.2.equals y = true := by
  rw [equals, Bool.and_eq_true, beq_iff_eq, equalMembers_iff]

namespace Members

variable {xs ys : Members} {k : Text} {x : Json}

theorem get?_isSome_iff : (xs.get? k).isSome = true ↔ k ∈ xs.map (·.1) := by
  simp [get?, List.lookup_isSome_iff]

/-- An object without repeated keys whose keys are all among those of another one of the same size has the
keys of that one. -/
theorem isSome_get?_of_subset (distinct : (xs.map (·.1)).Nodup) (size : xs.length = ys.length)
    (h : ∀ m ∈ xs, (ys.get? m.1).isSome = true) (k : Text) : (xs.get? k).isSome = (ys.get? k).isSome := by
  have hsub : xs.map (·.1) ⊆ ys.map (·.1) := by
    intro l hl
    obtain ⟨m, hm, rfl⟩ := List.mem_map.mp hl
    exact get?_isSome_iff.mp (h m hm)
  have hperm : (xs.map (·.1)).Perm (ys.map (·.1)) :=
    (List.subperm_of_subset distinct hsub).perm_of_length_le (by simp [size])
  rw [Bool.eq_iff_iff, get?_isSome_iff, get?_isSome_iff]
  exact hperm.mem_iff

end Members

/-! ## Equal values -/

theorem equals_number {x e : Json} {m : Number} (hx : x.number? = some m) (h : x.equals e = true) :
    ∃ n, e.number? = some n ∧ m.equals n = true := by
  cases x with
  | bool _ | int _ | real _ =>
    cases hx
    cases e <;> simp_all [equals, number?]
  | _ => cases hx

theorem flag_or_proper {x : Json} {m : Number} (hx : x.number? = some m) :
    (∃ b, x = .bool b ∧ m = .flag b) ∨ Schema.properNumber? x = some m := by
  cases x with
  | bool b =>
    cases hx
    exact .inl ⟨b, rfl, rfl⟩
  | int n => exact .inr hx
  | real y => exact .inr hx
  | _ => cases hx

theorem flag_injective {b c : Bool} (h : (Number.flag b).equals (.flag c) = true) : b = c := by
  have hwhole := (Number.equals_iff_of_whole rfl rfl).mp h
  cases b <;> cases c <;> first | rfl | cases hwhole

/-- Equal numbers are the same, unless one of them is a truth value and the other is not. -/
theorem same_number_iff {x e : Json} {m : Number} (hx : x.number? = some m) (h : x.equals e = true) :
    x.Same e ↔ ¬x.Coerced e := by
  obtain ⟨n, he, heq⟩ := equals_number hx h
  rcases flag_or_proper hx with ⟨b, rfl, rfl⟩ | hproper <;>
    rcases flag_or_proper he with ⟨c, rfl, rfl⟩ | hproper'
  · obtain rfl := flag_injective heq
    refine iff_of_true (.bool b) fun hc => ?_
    cases hc with
    | flag _ number => cases number
    | number number _ => cases number
  · refine iff_of_false (fun hs => ?_) (not_not_intro (.flag b hproper'))
    cases hs with
    | bool => cases hproper'
    | number left _ _ => cases left
  · refine iff_of_false (fun hs => ?_) (not_not_intro (.number hproper c))
    cases hs with
    | bool => cases hproper
    | number _ right _ => cases right
  · refine iff_of_true (.number hproper hproper' heq) fun hc => ?_
    cases hc with
    | flag _ _ => cases hproper
    | number _ _ => cases hproper'
    | item _ _ => cases hproper
    | member _ _ _ => cases hproper

/-- Lists are the same unless some of their items are not. -/
theorem same_arr_iff {xs ys : List Json} (length : xs.length = ys.length)
    (parts : ∀ x y, (x, y) ∈ xs.zip ys → (x.Same y ↔ ¬x.Coerced y)) :
    Same (.arr xs) (.arr ys) ↔ ¬Coerced (.arr xs) (.arr ys) := by
  constructor
  · intro hs hc
    cases hs with
    | number left _ _ => cases left
    | arr items =>
      cases hc with
      | item both inner => exact (parts _ _ both).mp ((List.forall₂_iff_zip.mp items).2 both) inner
  · intro hc
    refine .arr (List.forall₂_iff_zip.mpr ⟨length, fun both => ?_⟩)
    exact (parts _ _ both).mpr fun inner => hc (.item both inner)

/-- Objects with the same keys are the same unless some of their values are not. -/
theorem same_obj_iff {xs ys : Members} (keys : ∀ k, (xs.get? k).isSome = (ys.get? k).isSome)
    (parts : ∀ k x y, xs.get? k = some x → ys.get? k = some y → (x.Same y ↔ ¬x.Coerced y)) :
    Same (.obj xs) (.obj ys) ↔ ¬Coerced (.obj xs) (.obj ys) := by
  constructor
  · intro hs hc
    cases hs with
    | number left _ _ => cases left
    | obj _ values =>
      cases hc with
      | member left right inner => exact (parts _ _ _ left right).mp (values _ _ _ left right) inner
  · intro hc
    refine .obj keys fun k x y left right => ?_
    exact (parts k x y left right).mpr fun inner => hc (.member left right inner)

/-- **Values that count as equal are the same, unless somewhere in them a truth value stands for a
number.** -/
theorem same_iff_of_equals {x : Json} (hx : x.Keyed) {e : Json} (h : x.equals e = true) :
    x.Same e ↔ ¬x.Coerced e := by
  induction hx generalizing e with
  | null =>
    cases e with
    | null => exact iff_of_true .null fun hc => nomatch hc
    | _ => simp [equals, number?] at h
  | bool b => exact same_number_iff rfl h
  | int n => exact same_number_iff rfl h
  | real n => exact same_number_iff rfl h
  | str s =>
    cases e with
    | str t =>
      obtain rfl : s = t := by simpa [equals] using h
      exact iff_of_true (.str s) fun hc => nomatch hc
    | _ => simp [equals, number?] at h
  | @arr xs parts ih =>
    cases e with
    | arr ys =>
      obtain ⟨hlength, hitems⟩ := List.forall₂_iff_zip.mp (equalItems_iff.mp h)
      exact same_arr_iff hlength fun x y both => ih x (List.of_mem_zip both).1 (hitems both)
    | _ => simp [equals, number?] at h
  | @obj xs distinct parts ih =>
    cases e with
    | obj ys =>
      obtain ⟨hsize, hmembers⟩ := equals_obj_iff.mp h
      have hkeys := Members.isSome_get?_of_subset distinct hsize fun m hm => by
        obtain ⟨y, hy, -⟩ := hmembers _ hm
        exact Option.isSome_of_eq_some hy
      refine same_obj_iff hkeys fun k x y left right => ?_
      have hmem := Members.mem_of_get? left
      obtain ⟨y', hy', hequal⟩ := hmembers _ hmem
      cases right.symm.trans hy'
      exact ih _ hmem hequal
    | _ => simp [equals, number?] at h

/-- What counts as equal to a value without being the same can be mistaken for it. -/
theorem Coerced.mistakable {x e : Json} (hc : x.Coerced e) (h : x.equals e = true) : e.Mistakable := by
  induction hc with
  | flag b number =>
    obtain ⟨n, hn, hequal⟩ := equals_number rfl h
    rcases flag_or_proper hn with ⟨c, rfl, -⟩ | hproper
    · cases number
    · exact .number b hproper hequal
  | number _ b => exact .flag b
  | item both _ ih =>
    have hequal := (List.forall₂_iff_zip.mp (equalItems_iff.mp h)).2 both
    exact .item (List.of_mem_zip both).2 (ih hequal)
  | member left right _ ih =>
    obtain ⟨y, hy, hequal⟩ := (equals_obj_iff.mp h).2 _ (Members.mem_of_get? left)
    cases right.symm.trans hy
    exact .member right (ih hequal)

end DidRegistry.Json
