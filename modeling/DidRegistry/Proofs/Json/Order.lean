import DidRegistry.Proofs.Json.RoundTrip
import Mathlib.Data.List.Forall2
import Mathlib.Data.List.Nodup
import Mathlib.Data.List.Perm.Basic

/-!
# Values up to the order of members

Keys are put in the order of their code points.  This order is total and tells any two keys apart, so
members with different keys have one arrangement only: putting them in order forgets the order in which
they stood, and nothing else.

* `Json.Plain` — the values without binary numbers that have canonical bytes, rule by rule.
* `Json.Reordered` — values that are equal up to the order of the members of their objects, at every
  depth.

## Results

* `Text.le_antisymm` — texts neither of which comes after the other are the same.
* `Json.inOrder_eq_of_perm` — members have one arrangement in order.
* `Json.sorted_eq_iff` — **values are the same in order exactly when they are equal up to the order of
  members**.
* `Json.reordered_sorted` — a value in order is the value up to the order of members.
-/

set_option autoImplicit false

namespace DidRegistry

/-! ## The order of texts -/

theorem Point.code_injective : Function.Injective code := fun p q h =>
  Option.some.inj (by rw [← ofCode?_code p, ← ofCode?_code q, h])

namespace Text

theorem codes_injective : Function.Injective codes := by
  rintro ⟨ps⟩ ⟨qs⟩ h
  exact congrArg Text.mk (Point.code_injective.list_map h)

theorem le_total (a b : Text) : (a.le b || b.le a) = true := by
  simp only [le, Bool.or_eq_true, Bool.not_eq_true', List.lex_eq_false_iff_ge]
  exact List.le_total _ _

theorem le_trans {a b c : Text} (h : a.le b = true) (h' : b.le c = true) : a.le c = true := by
  simp only [le, Bool.not_eq_true', List.lex_eq_false_iff_ge] at *
  exact List.le_trans h h'

/-- Texts neither of which comes after the other are the same. -/
theorem le_antisymm {a b : Text} (h : a.le b = true) (h' : b.le a = true) : a = b := by
  simp only [le, Bool.not_eq_true', List.lex_eq_false_iff_ge] at h h'
  exact codes_injective (List.le_antisymm h h')

end Text

namespace Json

/-! ## Members in order -/

theorem pairwise_inOrder (ms : Members) : (inOrder ms).Pairwise fun a b => a.1.le b.1 = true := by
  refine List.pairwise_mergeSort ?_ ?_ ms
  · exact fun _ _ _ => Text.le_trans
  · exact fun a b => Text.le_total a.1 b.1

/-- **Members none of whose keys comes twice have one arrangement in order.** -/
theorem inOrder_eq_of_perm {ms ns : Members} (hd : (ms.map (·.1)).Nodup) (h : ms.Perm ns) :
    inOrder ms = inOrder ns := by
  have hperm : (inOrder ms).Perm (inOrder ns) := ((inOrder_perm ms).trans h).trans (inOrder_perm ns).symm
  refine List.Perm.eq_of_pairwise (fun a b ha hb hab hba => ?_) (pairwise_inOrder ms) (pairwise_inOrder ns)
    hperm
  have hb' : b ∈ ms := h.mem_iff.mpr ((inOrder_perm ns).mem_iff.mp hb)
  exact List.inj_on_of_nodup_map hd ((inOrder_perm ms).mem_iff.mp ha) hb' (Text.le_antisymm hab hba)

theorem inOrder_eq_iff {ms ns : Members} (hd : (ms.map (·.1)).Nodup) :
    inOrder ms = inOrder ns ↔ ms.Perm ns := by
  refine ⟨fun h => ?_, inOrder_eq_of_perm hd⟩
  exact ((inOrder_perm ms).symm.trans (List.Perm.of_eq h)).trans (inOrder_perm ns)

theorem sortedItems_eq (items : List Json) : sortedItems items = items.map sorted := by
  induction items with
  | nil => rfl
  | cons x r ih => rw [sortedItems, ih]; rfl

theorem sortedMembers_eq (ms : Members) : sortedMembers ms = ms.map fun m => (m.1, m.2.sorted) := by
  induction ms with
  | nil => rfl
  | cons m r ih => rw [sortedMembers, ih]; rfl

/-! ## Plain values -/

/-- Values that are built from null, truth values, whole numbers that fit, strings of characters, lists, and
objects none of whose keys comes twice. -/
inductive Plain (fits : Int → Prop) : Json → Prop where
  | null : Plain fits .null
  | bool (b : Bool) : Plain fits (.bool b)
  | int {n : Int} (size : fits n) : Plain fits (.int n)
  | str {s : Text} (characters : s.isWellFormed = true) : Plain fits (.str s)
  | arr {items : List Json} (plain : ∀ x ∈ items, Plain fits x) : Plain fits (.arr items)
  | obj {ms : Members} (distinct : (ms.map (·.1)).Nodup) (characters : ∀ m ∈ ms, m.1.isWellFormed = true)
      (plain : ∀ m ∈ ms, Plain fits m.2) : Plain fits (.obj ms)

/-- Values that are equal up to the order of the members of their objects, at every depth. -/
inductive Reordered : Json → Json → Prop where
  | same (v : Json) : Reordered v v
  | arr {xs ys : List Json} (items : List.Forall₂ Reordered xs ys) : Reordered (.arr xs) (.arr ys)
  /-- The members of the one correspond to those of the other in some arrangement. -/
  | obj {ms ns ps : Members} (keys : ms.map (·.1) = ns.map (·.1))
      (values : List.Forall₂ Reordered (ms.map (·.2)) (ns.map (·.2))) (arrangement : ns.Perm ps) :
      Reordered (.obj ms) (.obj ps)

variable {fits : Int → Prop} {v w : Json}

namespace Plain

theorem sorted (h : Plain fits v) : Plain fits v.sorted := by
  induction h with
  | null => exact .null
  | bool b => exact .bool b
  | int size => exact .int size
  | str characters => exact .str characters
  | @arr items plain ih =>
    rw [Json.sorted, sortedItems_eq]
    refine .arr fun x hx => ?_
    obtain ⟨y, hy, rfl⟩ := List.mem_map.mp hx
    exact ih y hy
  | @obj ms distinct characters plain ih =>
    have hp := inOrder_perm (sortedMembers ms)
    have hmem : ∀ m ∈ inOrder (sortedMembers ms), ∃ n ∈ ms, (n.1, n.2.sorted) = m := fun m hm => by
      rwa [hp.mem_iff, sortedMembers_eq, List.mem_map] at hm
    refine .obj ?_ (fun m hm => ?_) fun m hm => ?_
    · rw [(hp.map _).nodup_iff, sortedMembers_keys]
      exact distinct
    · obtain ⟨n, hn, rfl⟩ := hmem m hm
      exact characters n hn
    · obtain ⟨n, hn, rfl⟩ := hmem m hm
      exact ih n hn

end Plain

/-! ## What putting in order forgets -/

theorem sortedItems_eq_iff {xs ys : List Json}
    (h : ∀ x ∈ xs, ∀ y : Json, x.sorted = y.sorted ↔ Reordered x y) :
    sortedItems xs = sortedItems ys ↔ List.Forall₂ Reordered xs ys := by
  induction xs generalizing ys with
  | nil => cases ys <;> simp [sortedItems]
  | cons x xs ih =>
    cases ys with
    | nil => simp [sortedItems]
    | cons y ys =>
      rw [sortedItems, sortedItems, List.cons.injEq, List.forall₂_cons, h x List.mem_cons_self,
        ih fun z hz => h z (List.mem_cons_of_mem _ hz)]

theorem sortedMembers_eq_iff {ms ns : Members}
    (h : ∀ m ∈ ms, ∀ y : Json, m.2.sorted = y.sorted ↔ Reordered m.2 y) :
    sortedMembers ms = sortedMembers ns ↔
      ms.map (·.1) = ns.map (·.1) ∧ List.Forall₂ Reordered (ms.map (·.2)) (ns.map (·.2)) := by
  induction ms generalizing ns with
  | nil => cases ns <;> simp [sortedMembers]
  | cons m ms ih =>
    cases ns with
    | nil => simp [sortedMembers]
    | cons n ns =>
      simp only [sortedMembers, List.map_cons, List.cons.injEq, List.forall₂_cons, Prod.mk.injEq,
        h m List.mem_cons_self, ih fun z hz => h z (List.mem_cons_of_mem _ hz)]
      exact and_and_and_comm

theorem perm_sortedMembers_iff {ms ps : Members} :
    (sortedMembers ms).Perm (sortedMembers ps) ↔
      ∃ ns : Members, sortedMembers ms = sortedMembers ns ∧ ns.Perm ps := by
  constructor
  · intro h
    have hmap : List.Forall₂ (fun a n => a = (n.1, n.2.sorted)) (sortedMembers ps) ps := by
      rw [sortedMembers_eq, List.forall₂_map_left_iff]
      exact List.forall₂_same.mpr fun _ _ => rfl
    obtain ⟨ns, hns, hp⟩ := List.perm_comp_forall₂ h hmap
    refine ⟨ns, ?_, hp⟩
    rw [sortedMembers_eq ns, ← List.forall₂_eq_eq_eq, List.forall₂_map_right_iff]
    exact hns
  · rintro ⟨ns, he, hp⟩
    rw [he, sortedMembers_eq, sortedMembers_eq]
    exact hp.map _

theorem sorted_eq_iff_of_scalar (hl : ∀ items, v ≠ .arr items) (ho : ∀ ms, v ≠ .obj ms) :
    v.sorted = w.sorted ↔ Reordered v w := by
  have hv : v.sorted = v := by
    cases v with
    | arr items => exact absurd rfl (hl items)
    | obj ms => exact absurd rfl (ho ms)
    | _ => rfl
  rw [hv]
  constructor
  · rintro rfl
    cases w with
    | arr items => exact absurd rfl (hl _)
    | obj ms => exact absurd rfl (ho _)
    | _ => exact .same _
  · intro h
    cases h with
    | same => exact hv.symm
    | arr items => exact absurd rfl (hl _)
    | obj keys values arrangement => exact absurd rfl (ho _)

/-- **Values are the same in order exactly when they are equal up to the order of members.** -/
theorem sorted_eq_iff (h : Plain fits v) : v.sorted = w.sorted ↔ Reordered v w := by
  induction h generalizing w with
  | null | bool | int | str => exact sorted_eq_iff_of_scalar (by simp) (by simp)
  | @arr items plain ih =>
    constructor
    · intro h
      cases w with
      | arr ys => exact .arr ((sortedItems_eq_iff fun x hx _ => ih x hx).mp (Json.arr.inj h))
      | _ => cases h
    · intro h
      cases h with
      | same => rfl
      | arr items => exact congrArg Json.arr ((sortedItems_eq_iff fun x hx _ => ih x hx).mpr items)
  | @obj ms distinct characters plain ih =>
    have hd : ((sortedMembers ms).map (·.1)).Nodup := by rwa [sortedMembers_keys]
    constructor
    · intro h
      cases w with
      | obj ps =>
        obtain ⟨ns, hns, hp⟩ := perm_sortedMembers_iff.mp ((inOrder_eq_iff hd).mp (Json.obj.inj h))
        obtain ⟨keys, values⟩ := (sortedMembers_eq_iff fun m hm _ => ih m hm).mp hns
        exact .obj keys values hp
      | _ => cases h
    · intro h
      cases h with
      | same => rfl
      | obj keys values arrangement =>
        have hns := (sortedMembers_eq_iff fun m hm _ => ih m hm).mpr ⟨keys, values⟩
        exact congrArg Json.obj ((inOrder_eq_iff hd).mpr (perm_sortedMembers_iff.mpr ⟨_, hns, arrangement⟩))

theorem sorted_sorted (h : Plain fits v) : v.sorted.sorted = v.sorted := by
  induction h with
  | null | bool | int | str => rfl
  | @arr items plain ih =>
    have hitems : sortedItems (sortedItems items) = sortedItems items := by
      rw [sortedItems_eq, sortedItems_eq, List.map_map]
      exact List.map_congr_left ih
    simp only [sorted, hitems]
  | @obj ms distinct characters plain ih =>
    have hmembers : sortedMembers (sortedMembers ms) = sortedMembers ms := by
      rw [sortedMembers_eq, sortedMembers_eq, List.map_map]
      exact List.map_congr_left fun m hm => Prod.ext rfl (ih m hm)
    have hperm : (sortedMembers ms).Perm (sortedMembers (inOrder (sortedMembers ms))) := by
      nth_rewrite 1 [← hmembers]
      rw [sortedMembers_eq (sortedMembers ms), sortedMembers_eq (inOrder _)]
      exact ((inOrder_perm _).map _).symm
    have hd : ((sortedMembers ms).map (·.1)).Nodup := by rwa [sortedMembers_keys]
    simp only [sorted]
    rw [← inOrder_eq_of_perm hd hperm]

/-- **A value in order is the value up to the order of members.** -/
theorem reordered_sorted (h : Plain fits v) : Reordered v v.sorted :=
  (sorted_eq_iff h).mp (sorted_sorted h).symm

end Json

end DidRegistry
