import DidRegistry.Proofs.Json.Keys
import DidRegistry.Proofs.Json.Nesting

/-!
# Room for values in one another

The reader goes into lists and objects as far as it is given room.  Room is all that this decides: with more
room the same text is read as the same value, or fails to be one at the same place.  What was read within
some room can be shown within it.

## Results

* `Json.outOfRoomOr` — with less room the outcome is the same, or there is too little room.
* `Json.IsTextOf.read_eq` — **the text of a value is read as that value, unless it is too deep**.
* `Json.unshowable?_eq_none_iff` — a value is shown exactly when its numbers are short and it is not too deep.
* `Json.isShowable_of_readWithin` — **what was read can be shown**.
-/

set_option autoImplicit false

namespace DidRegistry.Json

/-- With less room the outcome is the same, or there is too little room. -/
def OutOfRoomOr {α : Type} (x y : Except ReadError α) : Prop := x = .error .tooDeep ∨ x = y

section

variable {α β : Type} {x y : Except ReadError α}

theorem OutOfRoomOr.map {f : α → β} (h : OutOfRoomOr x y) : OutOfRoomOr (x.map f) (y.map f) := by
  rcases h with rfl | rfl
  · exact .inl rfl
  · exact .inr rfl

theorem OutOfRoomOr.ifRoom {x y : Read α} {room room' : Nat} (h : OutOfRoomOr x y) (hle : room ≤ room') :
    OutOfRoomOr (ifRoom room x) (ifRoom room' y) := by
  unfold Json.ifRoom
  split
  · exact .inl rfl
  · rename_i hroom
    rwa [if_neg (by omega)]

end

/-- With less room a value is the same, or there is too little, and so it is for items and for members. -/
theorem outOfRoomOr (fuel : Nat) {room room' : Nat} (hle : room ≤ room') :
    (∀ s, OutOfRoomOr (readValue fuel room s) (readValue fuel room' s)) ∧
      (∀ s, OutOfRoomOr (readItems fuel room s) (readItems fuel room' s)) ∧
        ∀ sofar s, OutOfRoomOr (readMembers fuel room sofar s) (readMembers fuel room' sofar s) := by
  induction fuel generalizing room room' with
  | zero => exact ⟨fun _ => .inr rfl, fun _ => .inr rfl, fun _ _ => .inr rfl⟩
  | succ fuel ih =>
    refine ⟨fun s => ?value, fun s => ?items, fun sofar s => ?members⟩
    case value =>
      have hinner := ih (Nat.sub_le_sub_right hle 1)
      unfold readValue
      split
      · refine .ifRoom ?_ hle
        split
        · exact .inr rfl
        · exact (hinner.2.1 _).map
      · refine .ifRoom ?_ hle
        split
        · exact .inr rfl
        · exact (hinner.2.2 _ _).map
      · exact .inr rfl
    case items =>
      obtain ⟨hvalue, hitems, -⟩ := ih hle
      unfold readItems
      rcases hvalue s with h | h
      · rw [h]
        exact .inl rfl
      rw [h]
      split
      · exact .inr rfl
      · split
        · exact .inr rfl
        · exact (hitems _).map
        · exact .inr rfl
    case members =>
      obtain ⟨hvalue, -, hmembers⟩ := ih hle
      unfold readMembers
      split
      · split
        · exact .inr rfl
        split
        · rename_i r _
          rcases hvalue (skipSpace r) with h | h
          · rw [h]
            exact .inl rfl
          rw [h]
          split
          · exact .inr rfl
          · dsimp only
            split
            · exact .inr rfl
            · exact hmembers _ _
            · exact .inr rfl
        · exact .inr rfl
      · exact .inr rfl

/-! ## Texts of values -/

/-- The text is that of the value, whatever room it takes. -/
def IsTextOf (s : List Point) (v : Json) : Prop := ∃ room, readWithin room s = .ok v

variable {s : List Point} {v : Json}

theorem readWithin_outOfRoomOr {room room' : Nat} (hle : room ≤ room') (s : List Point) :
    OutOfRoomOr (readWithin room s) (readWithin room' s) := by
  unfold readWithin
  rcases (outOfRoomOr _ hle).1 (skipSpace s) with h | h
  · rw [h]
    exact .inl rfl
  · rw [h]
    exact .inr rfl

theorem isTextOf_of_read [Platform] (h : read s = .ok v) : IsTextOf s v := ⟨Platform.readRoom, h⟩

/-- **The text of a value is read as that value, unless it is too deep.** -/
theorem IsTextOf.read_eq [Platform] (h : IsTextOf s v) : read s = .ok v ∨ read s = .error .tooDeep := by
  obtain ⟨room, hroom⟩ := h
  rcases Nat.le_total room Platform.readRoom with hle | hle
  · rcases readWithin_outOfRoomOr hle s with hshort | hsame
    · cases hroom.symm.trans hshort
    · exact .inl (hsame.symm.trans hroom)
  · rcases readWithin_outOfRoomOr hle s with hshort | hsame
    · exact .inr hshort
    · exact .inl (hsame.trans hroom)

/-! ## Values that can be shown -/

/-- A value lies within the limits of what is shown, with room for so many lists and objects in one
another. -/
structure IsShowable (room : Nat) (v : Json) : Prop where
  short : v.allShort = true
  shallow : v.depth ≤ room

theorem isShowable_iff {room : Nat} : v.IsShowable room ↔ v.allShort = true ∧ v.depth ≤ room :=
  ⟨fun h => ⟨h.short, h.shallow⟩, fun h => ⟨h.1, h.2⟩⟩

mutual

/-- **A value is shown exactly when its whole numbers are short and it is not too deep.** -/
theorem unshowable?_eq_none_iff : ∀ (v : Json) (room : Nat), v.unshowable? room = none ↔ v.IsShowable room
  | .null, room | .bool _, room | .real _, room | .str _, room => by
    simp [unshowable?, isShowable_iff, allShort, depth]
  | .int n, room => by simp [unshowable?, isShowable_iff, allShort, depth]
  | .arr _, 0 | .obj _, 0 => by simp [unshowable?, isShowable_iff, depth]
  | .arr items, room + 1 => by
    rw [unshowable?, unshowableItem?_eq_none_iff items room, isShowable_iff, allShort, allShortItems_iff,
      depth, Nat.add_le_add_iff_right, depthItems_le_iff, ← forall₂_and]
    exact forall₂_congr fun x hx => isShowable_iff
  | .obj ms, room + 1 => by
    rw [unshowable?, unshowableMember?_eq_none_iff ms room, isShowable_iff, allShort, allShortMembers_iff,
      depth, Nat.add_le_add_iff_right, depthMembers_le_iff, ← forall₂_and]
    exact forall₂_congr fun x hx => isShowable_iff

theorem unshowableItem?_eq_none_iff : ∀ (items : List Json) (room : Nat),
    unshowableItem? room items = none ↔ ∀ x ∈ items, x.IsShowable room
  | [], room => by simp [unshowableItem?]
  | x :: r, room => by
    rw [unshowableItem?, Option.or_eq_none_iff, unshowable?_eq_none_iff x room,
      unshowableItem?_eq_none_iff r room, List.forall_mem_cons]

theorem unshowableMember?_eq_none_iff : ∀ (ms : Members) (room : Nat),
    unshowableMember? room ms = none ↔ ∀ m ∈ ms, m.2.IsShowable room
  | [], room => by simp [unshowableMember?]
  | (k, x) :: r, room => by
    rw [unshowableMember?, Option.or_eq_none_iff, unshowable?_eq_none_iff x room,
      unshowableMember?_eq_none_iff r room, List.forall_mem_cons]

end

namespace IsShowable

variable {room : Nat}

theorem mono {room' : Nat} (h : v.IsShowable room) (hle : room ≤ room') : v.IsShowable room' :=
  ⟨h.short, h.shallow.trans hle⟩

theorem str (t : Text) : (Json.str t).IsShowable room := ⟨rfl, Nat.zero_le room⟩

theorem item {items : List Json} (h : (Json.arr items).IsShowable (room + 1)) :
    ∀ x ∈ items, x.IsShowable room := fun x hx =>
  ⟨allShortItems_iff.mp h.short x hx, depthItems_le_iff.mp (Nat.le_of_succ_le_succ h.shallow) x hx⟩

theorem member (h : v.IsShowable (room + 1)) (key : Text) : ((v.get? key).getD .null).IsShowable room where
  short := allShort_getD_get? h.short key
  shallow := by
    cases v with
    | obj ms =>
      cases hx : Members.get? ms key with
      | none =>
        rw [get?, hx]
        exact Nat.zero_le room
      | some x =>
        rw [get?, hx]
        exact depthMembers_le_iff.mp (Nat.le_of_succ_le_succ h.shallow) _ (Members.mem_of_get? hx)
    | _ => exact Nat.zero_le room

end IsShowable

theorem depth_le_of_readWithin {room : Nat} (h : readWithin room s = .ok v) : v.depth ≤ room := by
  refine forall_of_readWithin (P := fun room v => v.depth ≤ room) (fun room v h => ?scalar)
    (fun room items h => ?list) (fun room => ?empty) (fun room ms key v hms hv => ?put) h
  case scalar =>
    cases h <;> exact Nat.zero_le room
  case list =>
    rw [depth]
    exact Nat.succ_le_succ (depthItems_le_iff.mpr h)
  case empty => simp [depth, depthMembers]
  case put =>
    rw [depth, Nat.add_le_add_iff_right, depthMembers_le_iff] at hms ⊢
    intro m hm
    rcases Members.mem_put hm with rfl | hm
    · exact hv
    · exact hms m hm

/-- **What was read within some room can be shown within it.** -/
theorem isShowable_of_readWithin {room : Nat} (h : readWithin room s = .ok v) : v.IsShowable room :=
  ⟨allShort_of_readWithin h, depth_le_of_readWithin h⟩

end DidRegistry.Json

namespace DidRegistry.Report

variable {room : Nat} {vs : List Json}

theorem findSome?_unshowable?_eq_none_iff :
    vs.findSome? (Json.unshowable? room) = none ↔ ∀ v ∈ vs, v.IsShowable room := by
  rw [List.findSome?_eq_none_iff]
  exact forall₂_congr fun v _ => Json.unshowable?_eq_none_iff v room

theorem showingWithin_of_showable (h : ∀ v ∈ vs, v.IsShowable room) (r : Report) :
    r.showingWithin room vs = r := by
  rw [showingWithin, findSome?_unshowable?_eq_none_iff.mpr h]

/-- What cannot be shown is the failure, whatever was to be reported. -/
theorem kind_showingWithin (h : ¬∀ v ∈ vs, v.IsShowable room) (r : Report) :
    (r.showingWithin room vs).kind = .value ∨ (r.showingWithin room vs).kind = .tooDeep := by
  obtain ⟨u, hu⟩ := Option.ne_none_iff_exists'.mp (mt findSome?_unshowable?_eq_none_iff.mp h)
  rw [showingWithin, hu]
  cases u with
  | tooLong => exact .inl rfl
  | tooDeep => exact .inr rfl

end DidRegistry.Report
