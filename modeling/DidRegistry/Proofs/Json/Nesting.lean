import DidRegistry.Proofs.Json.Unambiguous
import Mathlib.Data.Nat.Basic
import Mathlib.Order.Basic

/-!
# Values that are too deep to be read

The reader goes into lists and objects as far as it has room and no further.  So the text of a value is
read exactly when the value is not deeper than that, when it has no whole number that is too long.

## Results

* `Json.depth_sorted` — a value in order is as deep as the value.
* `Json.Plain.readable` — a value that is not too deep can be read back.
* `Json.refuses` — **the reader refuses a value that is deeper than it may go**.
* `Json.read_render_tooDeep` — the canonical text of a value that is too deep is refused.
-/

set_option autoImplicit false

namespace DidRegistry.Json

/-! ## Depth -/

mutual

/-- How many lists and objects lie in one another in a value. -/
def depth : Json → Nat
  | .arr items => depthItems items + 1
  | .obj members => depthMembers members + 1
  | _ => 0

/-- The depth of the deepest item. -/
def depthItems : List Json → Nat
  | [] => 0
  | x :: r => max (depth x) (depthItems r)

/-- The depth of the deepest member. -/
def depthMembers : List (Text × Json) → Nat
  | [] => 0
  | (_, x) :: r => max (depth x) (depthMembers r)

end

variable {v : Json} {fuel room : Nat} {r : List Point}

theorem depthItems_le_iff {items : List Json} {n : Nat} :
    depthItems items ≤ n ↔ ∀ x ∈ items, x.depth ≤ n := by
  induction items with
  | nil => simp [depthItems]
  | cons x r ih => rw [depthItems, Nat.max_le, ih, List.forall_mem_cons]

theorem depthMembers_le_iff {ms : Members} {n : Nat} : depthMembers ms ≤ n ↔ ∀ m ∈ ms, m.2.depth ≤ n := by
  induction ms with
  | nil => simp [depthMembers]
  | cons m r ih => rw [depthMembers, Nat.max_le, ih, List.forall_mem_cons]

theorem depthMembers_perm {ms ns : Members} (h : ms.Perm ns) : depthMembers ms = depthMembers ns :=
  eq_of_forall_ge_iff fun n => by simp only [depthMembers_le_iff, h.mem_iff]

/-- A value in order is as deep as the value. -/
theorem depth_sorted {fits : Int → Prop} (h : Plain fits v) : v.sorted.depth = v.depth := by
  induction h with
  | null | bool | int | str => rfl
  | @arr items plain ih =>
    have hitems : depthItems (sortedItems items) = depthItems items :=
      eq_of_forall_ge_iff fun n => by
        rw [depthItems_le_iff, depthItems_le_iff, sortedItems_eq, List.forall_mem_map]
        exact forall₂_congr fun x hx => by rw [ih x hx]
    simp only [sorted, depth, hitems]
  | @obj ms distinct characters plain ih =>
    have hmembers : depthMembers (sortedMembers ms) = depthMembers ms :=
      eq_of_forall_ge_iff fun n => by
        rw [depthMembers_le_iff, depthMembers_le_iff, sortedMembers_eq, List.forall_mem_map]
        exact forall₂_congr fun m hm => by rw [ih m hm]
    simp only [sorted, depth, depthMembers_perm (inOrder_perm _), hmembers]

/-! ## Values that are not too deep -/

theorem readableItems_iff {items : List Json} : ReadableItems room items ↔ ∀ x ∈ items, Readable room x := by
  induction items with
  | nil => simp [ReadableItems]
  | cons x r ih => simp [ReadableItems, ih]

/-- A value that is not too deep can be read back. -/
theorem Plain.readable (h : Plain IsShort v) (hd : v.depth ≤ room) : Readable room v := by
  induction h generalizing room with
  | null | bool => trivial
  | int size => exact size
  | str characters => exact characters
  | @arr items plain ih =>
    rw [depth] at hd
    refine ⟨by omega, readableItems_iff.mpr fun x hx => ih x hx ?_⟩
    exact depthItems_le_iff.mp (show _ ≤ room - 1 by omega) x hx
  | @obj ms distinct characters plain ih =>
    rw [depth] at hd
    refine ⟨by omega, distinct, readableMembers_iff.mpr fun m hm => ⟨characters m hm, ih m hm ?_⟩⟩
    exact depthMembers_le_iff.mp (show _ ≤ room - 1 by omega) m hm

/-- The text of a value starts as one, however deep the value is. -/
theorem Plain.write_opens (h : Plain IsShort v) : ∃ c cs, write v = c :: cs ∧ opens c = true :=
  Json.write_opens (h.readable (Nat.le_refl _))

/-! ## Values that are too deep -/

/-- The reader refuses to go into a value that is too deep, whatever comes after its text. -/
def Refuses (room : Nat) (v : Json) : Prop :=
  ∀ {fuel : Nat} {r : List Point}, room < v.depth → 2 * (write v).length ≤ fuel → Stops r →
    readValue fuel room ((write v).map .char ++ r) = .error .tooDeep

theorem readItems_error {s : List Point} {e : ReadError} (h : readValue fuel room s = .error e) :
    readItems (fuel + 1) room s = .error e := by
  rw [readItems, h]

/-- Items are refused when one of them is too deep: those before it are read. -/
theorem readItems_tooDeep {x : Json} {xs : List Json} (hp : ∀ y ∈ x :: xs, Plain IsShort y)
    (hrefuse : ∀ y ∈ x :: xs, Refuses room y) (hd : room < depthItems (x :: xs))
    (hf : 2 * (joinCommas ((x :: xs).map write)).length < fuel) :
    readItems fuel room ((joinCommas ((x :: xs).map write)).map .char ++ .char ']' :: r) =
      .error .tooDeep := by
  induction xs generalizing x fuel with
  | nil =>
    obtain ⟨n, rfl⟩ : ∃ n, fuel = n + 1 := ⟨fuel - 1, by omega⟩
    have hx : room < x.depth := by simpa [depthItems] using hd
    exact readItems_error (hrefuse x List.mem_cons_self hx (Nat.le_of_lt_succ hf)
      (stops_mark (.inr (.inl rfl)) r))
  | cons y ys ih =>
    obtain ⟨n, rfl⟩ : ∃ n, fuel = n + 1 := ⟨fuel - 1, by omega⟩
    have hj : joinCommas ((x :: y :: ys).map write) = write x ++ ',' :: joinCommas ((y :: ys).map write) :=
      rfl
    rw [hj, List.length_append, List.length_cons] at hf
    rw [hj, List.map_append, List.append_assoc]
    by_cases hx : room < x.depth
    · exact readItems_error (hrefuse x List.mem_cons_self hx (by omega) (stops_mark (.inl rfl) _))
    · have hys : room < depthItems (y :: ys) := by
        rw [depthItems] at hd
        omega
      have hrest := ih (fun z hz => hp z (List.mem_cons_of_mem _ hz))
        (fun z hz => hrefuse z (List.mem_cons_of_mem _ hz)) hys (show _ < n by omega)
      obtain ⟨c, cs, hc, hopen⟩ := (hp y (by simp)).write_opens
      obtain ⟨t, ht⟩ : ∃ t, joinCommas ((y :: ys).map write) = c :: t := joinCommas_opens hc _
      rw [ht] at hrest ⊢
      have hread := (hp x List.mem_cons_self).readable (Nat.le_of_not_lt hx)
      exact (readItems_next hopen (readValue_write x hread (by omega) (stops_mark (.inl rfl) _))).trans
        (congrArg (Except.map _) hrest)

/-- A member is read: its key, and then its value. -/
theorem readMembers_member {k : Text} {x : Json} (hk : k.isWellFormed = true) (hx : Plain IsShort x)
    (sofar : Members) : readMembers (fuel + 1) room sofar ((writeMember (k, x)).map .char ++ r) =
      afterKey fuel room sofar k (readValue fuel room ((write x).map .char ++ r)) := by
  obtain ⟨cs, rfl⟩ := Text.exists_ofChars hk
  obtain ⟨c, t, hc, hopen⟩ := hx.write_opens
  simp only [writeMember, hc, List.map_append, List.map_cons, List.append_assoc, List.cons_append]
  exact readMembers_key hopen cs sofar

/-- Members are refused when the value of one of them is too deep: those before it are read. -/
theorem readMembers_tooDeep {m : Text × Json} {ms : Members} (sofar : Members)
    (hk : ∀ n ∈ m :: ms, n.1.isWellFormed = true) (hp : ∀ n ∈ m :: ms, Plain IsShort n.2)
    (hrefuse : ∀ n ∈ m :: ms, Refuses room n.2) (hd : room < depthMembers (m :: ms))
    (hf : 2 * (joinCommas ((m :: ms).map writeMember)).length < fuel) :
    readMembers fuel room sofar ((joinCommas ((m :: ms).map writeMember)).map .char ++ .char '\x7d' :: r) =
      .error .tooDeep := by
  have hlength : ∀ n : Text × Json, (write n.2).length < (writeMember n).length := fun n => by
    simp only [writeMember, List.length_append, List.length_cons]
    omega
  induction ms generalizing m sofar fuel with
  | nil =>
    obtain ⟨n, rfl⟩ : ∃ n, fuel = n + 1 := ⟨fuel - 1, by omega⟩
    have hm : room < m.2.depth := by simpa [depthMembers] using hd
    have hl := hlength m
    have hj : joinCommas ([m].map writeMember) = writeMember m := rfl
    rw [hj] at hf ⊢
    rw [readMembers_member (hk m List.mem_cons_self) (hp m List.mem_cons_self),
      hrefuse m List.mem_cons_self hm (by omega) (stops_mark (.inr (.inr rfl)) r)]
    rfl
  | cons n ns ih =>
    obtain ⟨left, rfl⟩ : ∃ left, fuel = left + 1 := ⟨fuel - 1, by omega⟩
    have hl := hlength m
    have hj : joinCommas ((m :: n :: ns).map writeMember) =
        writeMember m ++ ',' :: joinCommas ((n :: ns).map writeMember) := rfl
    rw [hj, List.length_append, List.length_cons] at hf
    rw [hj, List.map_append, List.append_assoc, List.map_cons, List.cons_append,
      readMembers_member (hk m List.mem_cons_self) (hp m List.mem_cons_self)]
    by_cases hm : room < m.2.depth
    · rw [hrefuse m List.mem_cons_self hm (by omega) (stops_mark (.inl rfl) _)]
      rfl
    · have hns : room < depthMembers (n :: ns) := by
        rw [depthMembers] at hd
        omega
      have hrest := ih (Members.put m.1 m.2 sofar) (fun z hz => hk z (List.mem_cons_of_mem _ hz))
        (fun z hz => hp z (List.mem_cons_of_mem _ hz)) (fun z hz => hrefuse z (List.mem_cons_of_mem _ hz))
        hns (show _ < left by omega)
      have hread := (hp m List.mem_cons_self).readable (Nat.le_of_not_lt hm)
      rw [readValue_write m.2 hread (by omega) (stops_mark (.inl rfl) _)]
      obtain ⟨t, ht⟩ : ∃ t, joinCommas ((n :: ns).map writeMember) = '"' :: t := joinCommas_opens rfl _
      rw [ht] at hrest ⊢
      exact hrest

theorem length_write_arr (items : List Json) :
    (write (.arr items)).length = (joinCommas (items.map write)).length + 2 := by
  simp [write, writeItems_eq]

theorem length_write_obj (ms : Members) :
    (write (.obj ms)).length = (joinCommas (ms.map writeMember)).length + 2 := by
  have h := congrArg List.length (write_obj ms [])
  simp only [List.length_append, List.length_map, List.length_cons, List.length_nil] at h
  omega

/-- **The reader refuses a value that is deeper than it may go.** -/
theorem refuses (h : Plain IsShort v) : Refuses room v := by
  induction h generalizing room with
  | null | bool | int | str =>
    intro fuel r hd
    cases hd
  | @arr items plain ih =>
    intro fuel r hd hf _
    rw [length_write_arr] at hf
    obtain ⟨n, rfl⟩ : ∃ n, fuel = n + 1 := ⟨fuel - 1, by omega⟩
    rw [write_arr]
    by_cases hroom : room = 0
    · rw [hroom, readValue, ifRoom, if_pos rfl]
    · rw [depth] at hd
      cases items with
      | nil => exact absurd (Nat.lt_one_iff.mp hd) hroom
      | cons x xs =>
        have hitems := readItems_tooDeep (r := r) plain (fun y hy => ih y hy)
          (show room - 1 < depthItems (x :: xs) by omega) (show _ < n by omega)
        obtain ⟨c, cs, hc, hopen⟩ := (plain x List.mem_cons_self).write_opens
        obtain ⟨t, ht⟩ : ∃ t, joinCommas ((x :: xs).map write) = c :: t := joinCommas_opens hc _
        rw [ht] at hitems ⊢
        exact (readValue_list (by omega) hopen).trans (congrArg (Except.map _) hitems)
  | @obj ms distinct characters plain ih =>
    intro fuel r hd hf _
    rw [length_write_obj] at hf
    obtain ⟨n, rfl⟩ : ∃ n, fuel = n + 1 := ⟨fuel - 1, by omega⟩
    rw [write_obj]
    by_cases hroom : room = 0
    · rw [hroom, readValue, ifRoom, if_pos rfl]
    · rw [depth] at hd
      cases ms with
      | nil => exact absurd (Nat.lt_one_iff.mp hd) hroom
      | cons m ms =>
        have hmembers := readMembers_tooDeep (r := r) [] characters plain (fun y hy => ih y hy)
          (show room - 1 < depthMembers (m :: ms) by omega) (show _ < n by omega)
        obtain ⟨t, ht⟩ : ∃ t, joinCommas ((m :: ms).map writeMember) = '"' :: t := joinCommas_opens rfl _
        rw [ht] at hmembers ⊢
        exact (readValue_object (by omega)).trans (congrArg (Except.map _) hmembers)

/-- The canonical text of a value that is too deep is refused. -/
theorem read_render_tooDeep [Platform] (h : Plain IsShort v) (hd : Platform.readRoom < v.depth) :
    read (v.render.map .char) = .error .tooDeep := by
  have hs := h.sorted
  have hv := refuses hs (r := []) (by rwa [depth_sorted h])
    (show _ ≤ 2 * (write v.sorted).length + 2 by omega) stops_nil
  rw [List.append_nil] at hv
  rw [render_eq, read, readWithin, skipSpace_text hs.write_opens, List.length_map, hv]

end DidRegistry.Json
