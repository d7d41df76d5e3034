import DidRegistry.Proofs.Json.Nesting

/-!
# Values that can be written

The writer goes into lists and objects as far as it has room, and writes no whole number that is too long.
A plain value has no other obstacle to it, so that it has a canonical text exactly within these limits.

## Results

* `Json.Plain.obstacle_eq_none_iff` — a plain value is written exactly when its numbers are short and it is
  not too deep.
* `Json.Plain.obstacle_of_deep` — when its numbers are short, its depth alone is in the way.
* `Json.Plain.canonical_isOk_iff` — **a plain value has a canonical text exactly within the limits**.
* `Json.Reordered.canonical_eq` — values that are equal up to the order of members are written alike, or fail
  alike.
-/

set_option autoImplicit false

namespace DidRegistry.Json

variable {fits : Int → Prop} {v w : Json} {room : Nat}

theorem allWellFormedItems_iff {items : List Json} :
    allWellFormedItems items = true ↔ ∀ x ∈ items, x.allWellFormed = true := by
  induction items with
  | nil => simp [allWellFormedItems]
  | cons x r ih => simp [allWellFormedItems, ih]

theorem allWellFormedMembers_iff {ms : Members} :
    allWellFormedMembers ms = true ↔ ∀ m ∈ ms, m.1.isWellFormed = true ∧ m.2.allWellFormed = true := by
  induction ms with
  | nil => simp [allWellFormedMembers]
  | cons m r ih => simp [allWellFormedMembers, ih, and_assoc]

theorem obstacleInItems_eq_none_iff {items : List Json} :
    obstacleInItems room items = none ↔ ∀ x ∈ items, x.obstacle room = none := by
  induction items with
  | nil => simp [obstacleInItems]
  | cons x r ih => simp [obstacleInItems, ih]

theorem obstacleInMembers_eq_none_iff {ms : Members} :
    obstacleInMembers room ms = none ↔ ∀ m ∈ ms, m.2.obstacle room = none := by
  induction ms with
  | nil => simp [obstacleInMembers]
  | cons m r ih => simp [obstacleInMembers, ih]

theorem exists_of_obstacleInItems {items : List Json} {e : CanonicalError}
    (h : obstacleInItems room items = some e) : ∃ x ∈ items, x.obstacle room = some e := by
  induction items with
  | nil => cases h
  | cons x r ih =>
    rw [obstacleInItems, Option.or_eq_some_iff] at h
    rcases h with h | ⟨-, h⟩
    · exact ⟨x, List.mem_cons_self, h⟩
    · obtain ⟨y, hy, he⟩ := ih h
      exact ⟨y, List.mem_cons_of_mem _ hy, he⟩

theorem exists_of_obstacleInMembers {ms : Members} {e : CanonicalError}
    (h : obstacleInMembers room ms = some e) : ∃ m ∈ ms, m.2.obstacle room = some e := by
  induction ms with
  | nil => cases h
  | cons m r ih =>
    rw [obstacleInMembers, Option.or_eq_some_iff] at h
    rcases h with h | ⟨-, h⟩
    · exact ⟨m, List.mem_cons_self, h⟩
    · obtain ⟨y, hy, he⟩ := ih h
      exact ⟨y, List.mem_cons_of_mem _ hy, he⟩

namespace Plain

theorem allWellFormed (h : Plain fits v) : v.allWellFormed = true := by
  induction h with
  | null | bool | int => rfl
  | str characters => exact characters
  | arr plain ih => exact allWellFormedItems_iff.mpr ih
  | obj distinct characters plain ih =>
    exact allWellFormedMembers_iff.mpr fun m hm => ⟨characters m hm, ih m hm⟩

theorem allShort (h : Plain IsShort v) : v.allShort = true := by
  induction h with
  | null | bool | str => rfl
  | int size => exact decide_eq_true size
  | arr plain ih => exact allShortItems_iff.mpr ih
  | obj distinct characters plain ih => exact allShortMembers_iff.mpr ih

theorem allShort_sorted (h : Plain fits v) : v.sorted.allShort = v.allShort := by
  induction h with
  | null | bool | int | str => rfl
  | @arr items plain ih =>
    rw [Bool.eq_iff_iff, Json.sorted, Json.allShort, Json.allShort, allShortItems_iff, allShortItems_iff,
      sortedItems_eq, List.forall_mem_map]
    exact forall₂_congr fun x hx => by rw [ih x hx]
  | @obj ms distinct characters plain ih =>
    rw [Bool.eq_iff_iff, Json.sorted, Json.allShort, Json.allShort, allShortMembers_iff, allShortMembers_iff]
    simp only [(inOrder_perm (sortedMembers ms)).mem_iff]
    rw [sortedMembers_eq, List.forall_mem_map]
    exact forall₂_congr fun m hm => by rw [ih m hm]

/-- **A plain value is written exactly when its numbers are short and it is not too deep.** -/
theorem obstacle_eq_none_iff (h : Plain fits v) :
    v.obstacle room = none ↔ v.allShort = true ∧ v.depth ≤ room := by
  induction h generalizing room with
  | null | bool | str => simp [obstacle, Json.allShort, depth]
  | int => simp [obstacle, Json.allShort, depth]
  | @arr items plain ih =>
    cases room with
    | zero => simp [obstacle, depth]
    | succ room =>
      rw [obstacle, obstacleInItems_eq_none_iff, Json.allShort, allShortItems_iff, depth,
        Nat.add_le_add_iff_right, depthItems_le_iff, ← forall₂_and]
      exact forall₂_congr fun x hx => ih x hx
  | @obj ms distinct characters plain ih =>
    cases room with
    | zero => simp [obstacle, depth]
    | succ room =>
      rw [obstacle, obstacleInMembers_eq_none_iff, Json.allShort, allShortMembers_iff, depth,
        Nat.add_le_add_iff_right, depthMembers_le_iff, ← forall₂_and]
      exact forall₂_congr fun m hm => ih m hm

theorem obstacle_eq_tooDeep (h : Plain IsShort v) {e : CanonicalError} (he : v.obstacle room = some e) :
    e = .tooDeep := by
  induction h generalizing room with
  | null | bool | str => cases he
  | int size =>
    rw [obstacle, if_pos size] at he
    cases he
  | arr plain ih =>
    cases room with
    | zero => exact (Option.some.inj he).symm
    | succ room =>
      obtain ⟨x, hx, hxe⟩ := exists_of_obstacleInItems he
      exact ih x hx hxe
  | obj distinct characters plain ih =>
    cases room with
    | zero => exact (Option.some.inj he).symm
    | succ room =>
      obtain ⟨m, hm, hme⟩ := exists_of_obstacleInMembers he
      exact ih m hm hme

/-- When its numbers are short, nothing but its depth keeps a plain value from being written. -/
theorem obstacle_of_deep (h : Plain IsShort v) (hd : room < v.depth) : v.obstacle room = some .tooDeep := by
  obtain ⟨e, he⟩ : ∃ e, v.obstacle room = some e := by
    refine Option.ne_none_iff_exists'.mp fun hnone => ?_
    exact absurd (h.obstacle_eq_none_iff.mp hnone).2 (Nat.not_le.mpr hd)
  rw [he, h.obstacle_eq_tooDeep he]

end Plain

/-! ## Canonical texts -/

variable [Platform]

/-- A value lies within the limits of the writer. -/
structure IsWritable (v : Json) : Prop where
  short : v.allShort = true
  shallow : v.depth ≤ Platform.writeRoom

theorem canonical_eq_ok_iff {s : List Char} :
    v.canonical = .ok s ↔ v.sorted.unwritable? = none ∧ s = v.render := by
  unfold canonical
  cases v.sorted.unwritable? with
  | none => simp [eq_comm]
  | some e => simp

namespace Plain

theorem unwritable?_sorted (h : Plain fits v) :
    v.sorted.unwritable? = v.sorted.obstacle Platform.writeRoom := by
  rw [unwritable?, if_pos h.sorted.allWellFormed, Option.or_none]

theorem unwritable?_eq_none_iff (h : Plain fits v) : v.sorted.unwritable? = none ↔ v.IsWritable := by
  rw [h.unwritable?_sorted, h.sorted.obstacle_eq_none_iff, h.allShort_sorted, depth_sorted h]
  exact ⟨fun hw => ⟨hw.1, hw.2⟩, fun hw => ⟨hw.short, hw.shallow⟩⟩

/-- **A plain value has a canonical text exactly within the limits.** -/
theorem canonical_isOk_iff (h : Plain fits v) : (∃ s, v.canonical = .ok s) ↔ v.IsWritable := by
  simp only [canonical_eq_ok_iff, exists_eq_right, h.unwritable?_eq_none_iff]

theorem canonical_eq (h : Plain fits v) (hw : v.IsWritable) : v.canonical = .ok v.render :=
  canonical_eq_ok_iff.mpr ⟨h.unwritable?_eq_none_iff.mpr hw, rfl⟩

theorem canonicalBytes_eq (h : Plain fits v) (hw : v.IsWritable) :
    v.canonicalBytes = .ok (Text.Utf8.encode v.render) := by
  rw [canonicalBytes, h.canonical_eq hw]
  rfl

theorem canonical_tooDeep (h : Plain IsShort v) (hd : Platform.writeRoom < v.depth) :
    v.canonical = .error .tooDeep := by
  have hs : v.sorted.unwritable? = some .tooDeep := by
    rw [h.unwritable?_sorted]
    exact h.sorted.obstacle_of_deep (by rwa [depth_sorted h])
  rw [canonical, hs]

end Plain

/-- **Values that are equal up to the order of members are written alike, or fail alike.** -/
theorem Reordered.canonical_eq (hr : Reordered v w) (h : Plain fits v) : v.canonical = w.canonical := by
  rw [canonical, canonical, render_eq, render_eq, (sorted_eq_iff h).mpr hr]

end DidRegistry.Json
