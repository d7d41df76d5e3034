import DidRegistry.Proofs.Json.RoundTrip
import DidRegistry.Proofs.Outcome
import Mathlib.Algebra.Group.Nat.Defs
import Mathlib.Data.List.Induction

/-!
# Values that are read

A text may give a key of an object more than once, and the reader keeps one place for it.  So in every value
that was read no key comes twice, in none of the objects at any depth, and an object is told by what its keys
stand for.  A whole number of too many digits is not read at all, so that none is in a value that was.

## Results

* `Json.Members.nodup_put` — setting a member repeats no key.
* `Json.scalar_of_readScalar` — a value without parts that is read is no whole number of too many digits.
* `Json.forall_of_readValue` — the induction on the reader: what passes from the parts of a value to the value
  holds of all that is read.
* `Json.keyed_of_readWithin`, `Json.keyed_of_readBody` — **in a value that was read no key comes twice**.
* `Json.allShort_of_readWithin` — **every whole number in it is short enough to be written**.
-/

set_option autoImplicit false

namespace DidRegistry.Json

/-- Values in whose objects no key comes twice, at any depth. -/
inductive Keyed : Json → Prop where
  | null : Keyed .null
  | bool (b : Bool) : Keyed (.bool b)
  | int (n : Int) : Keyed (.int n)
  | real (x : Binary64) : Keyed (.real x)
  | str (s : Text) : Keyed (.str s)
  | arr {items : List Json} (parts : ∀ x ∈ items, Keyed x) : Keyed (.arr items)
  | obj {ms : Members} (distinct : (ms.map (·.1)).Nodup) (parts : ∀ m ∈ ms, Keyed m.2) : Keyed (.obj ms)

/-! ## Setting a member -/

namespace Members

variable {key : Text} {value : Json} {ms : Members}

theorem mem_of_get? (h : ms.get? key = some value) : (key, value) ∈ ms := by
  obtain ⟨before, after, rfl, -⟩ := List.lookup_eq_some_iff.mp h
  simp

theorem mem_put {m : Text × Json} (h : m ∈ ms.put key value) : m = (key, value) ∨ m ∈ ms := by
  induction ms with
  | nil => exact .inl (List.mem_singleton.mp h)
  | cons n r ih =>
    obtain ⟨k, x⟩ := n
    unfold put at h
    split at h
    · rename_i hk
      rcases List.mem_cons.mp h with rfl | h
      · rw [hk]
        exact .inl rfl
      · exact .inr (List.mem_cons_of_mem _ h)
    · rcases List.mem_cons.mp h with rfl | h
      · exact .inr List.mem_cons_self
      · exact (ih h).imp_right (List.mem_cons_of_mem _)

/-- Setting a member repeats no key. -/
theorem nodup_put (h : (ms.map (·.1)).Nodup) (key : Text) (value : Json) :
    ((ms.put key value).map (·.1)).Nodup := by
  induction ms with
  | nil => simp [put]
  | cons n r ih =>
    obtain ⟨k, x⟩ := n
    rw [List.map_cons, List.nodup_cons] at h
    unfold put
    split
    · rw [List.map_cons, List.nodup_cons]
      exact h
    · rename_i hk
      rw [List.map_cons, List.nodup_cons]
      refine ⟨fun hmem => ?_, ih h.2⟩
      obtain ⟨m, hm, hmk⟩ := List.mem_map.mp hmem
      rcases mem_put hm with rfl | hm
      · exact hk hmk.symm
      · exact h.1 (hmk ▸ List.mem_map_of_mem hm)

end Members

theorem keyed_empty : Keyed (.obj []) := .obj List.nodup_nil fun _ hm => nomatch hm

theorem Keyed.put {value : Json} {ms : Members} (h : Keyed (.obj ms)) (key : Text) (hv : value.Keyed) :
    Keyed (.obj (ms.put key value)) := by
  cases h with
  | obj distinct parts =>
    refine .obj (Members.nodup_put distinct key value) fun m hm => ?_
    rcases Members.mem_put hm with rfl | hm
    · exact hv
    · exact parts m hm

/-! ## Whole numbers -/

theorem ofDigits_concat (ds : List Nat) (d : Nat) : ofDigits (ds ++ [d]) = ofDigits ds * 10 + d := by
  simp [ofDigits]

theorem ofDigits_lt {ds : List Nat} (h : ∀ d ∈ ds, d < 10) : ofDigits ds < 10 ^ ds.length := by
  induction ds using List.reverseRecOn with
  | nil => decide
  | append_singleton ds d ih =>
    obtain ⟨hds, hd⟩ := List.forall_mem_append.mp h
    have hlt := ih hds
    have hlast := hd d (List.mem_singleton_self d)
    rw [ofDigits_concat, List.length_append, List.length_singleton, Nat.pow_succ]
    omega

theorem lt_of_asciiDigit? {c : Char} {d : Nat} (h : Text.asciiDigit? c = some d) : d < 10 := by
  unfold Text.asciiDigit? at h
  split at h
  · rename_i hc
    have hle : c.toNat ≤ '9'.toNat := hc.2
    have hval : '9'.toNat = 57 ∧ '0'.toNat = 48 := by decide
    have hd := Option.some.inj h
    omega
  · cases h

theorem lt_of_mem_spanDigits {s : List Point} {d : Nat} (h : d ∈ (spanDigits s).1) : d < 10 := by
  obtain ⟨p, -, hp⟩ := List.mem_filterMap.mp h
  exact lt_of_asciiDigit? hp

theorem length_decimal_le {n k : Nat} (h : n < 10 ^ (k + 1)) : (Text.decimal n).length ≤ k + 1 := by
  induction k generalizing n with
  | zero =>
    rw [Text.decimal, if_pos (by simpa using h)]
    exact Nat.le_refl 1
  | succ k ih =>
    unfold Text.decimal
    split
    · simp
    · have hdiv : n / 10 < 10 ^ (k + 1) := by
        rw [Nat.pow_succ] at h
        omega
      simpa using ih hdiv

theorem isShort_ofDigits {ds : List Nat} (hds : ∀ d ∈ ds, d < 10) (hl : ds.length ≤ digitLimit) :
    IsShort (ofDigits ds) := by
  obtain ⟨k, hk⟩ : ∃ k, digitLimit = k + 1 := ⟨4299, rfl⟩
  have hlt : ofDigits ds < 10 ^ digitLimit :=
    Nat.lt_of_lt_of_le (ofDigits_lt hds) (Nat.pow_le_pow_right (by decide) hl)
  rw [hk] at hlt
  rw [IsShort, hk]
  exact length_decimal_le hlt

theorem isShort_neg {n : Int} : IsShort (-n) ↔ IsShort n := by
  rw [IsShort, IsShort, Int.natAbs_neg]

/-! ## Reading -/

section

variable {s r : List Point} {v : Json}

/-- What a value without parts can be when it is read. -/
inductive Scalar : Json → Prop where
  | null : Scalar .null
  | bool (b : Bool) : Scalar (.bool b)
  | int {n : Int} (short : IsShort n) : Scalar (.int n)
  | real (x : Binary64) : Scalar (.real x)
  | str (s : Text) : Scalar (.str s)

theorem Scalar.keyed (h : Scalar v) : v.Keyed := by
  cases h <;> constructor

theorem Scalar.allShort (h : Scalar v) : v.allShort = true := by
  cases h with
  | int short => exact decide_eq_true short
  | _ => rfl

theorem scalar_of_readNumber {negative : Bool} (h : readNumber negative s = .ok (v, r)) : Scalar v := by
  have hzero : ∀ d ∈ [0], d < 10 := by decide
  have hspan : ∀ d ∈ (spanDigits s).1, d < 10 := fun _ => lt_of_mem_spanDigits
  unfold readNumber at h
  dsimp only at h
  -- The digits are a zero alone or a run, and the number is whole or a binary one.
  split at h
  all_goals
    split at h
    · cases h
    · split at h
      · split at h
        · cases h
        · rename_i hl
          cases h
          have hshort := isShort_ofDigits (by assumption) (Nat.not_lt.mp hl)
          cases negative
          · exact .int hshort
          · exact .int (isShort_neg.mpr hshort)
      · cases h
        exact .real _

theorem scalar_of_readScalar (h : readScalar s = .ok (v, r)) : Scalar v := by
  unfold readScalar at h
  split at h
  · rename_i p hword
    cases h
    obtain ⟨word, hmem, hread⟩ := List.exists_of_findSome?_eq_some hword
    obtain ⟨rest, -, hp⟩ := Option.map_eq_some_iff.mp hread
    cases hp
    have hwords : ∀ w ∈ words, Scalar w.2 := by
      simp only [words, List.forall_mem_cons]
      exact ⟨.null, .bool _, .bool _, .real _, .real _, .real _, by simp⟩
    exact hwords word hmem
  · split at h
    · obtain ⟨p, -, hp⟩ := map_eq_ok.mp h
      cases hp
      exact .str _
    · exact scalar_of_readNumber h
    · exact scalar_of_readNumber h

theorem ifRoom_eq_ok {α : Type} {room : Nat} {x : Read α} {p : α × List Point} (h : ifRoom room x = .ok p) :
    ∃ n, room = n + 1 ∧ x = .ok p := by
  unfold ifRoom at h
  split at h
  · cases h
  · rename_i hroom
    exact ⟨room - 1, by omega, h⟩

end

section

-- `P room v` is what is claimed of a value that is read with so much room.
variable {P : Nat → Json → Prop} (hscalar : ∀ room v, Scalar v → P room v)
  (harr : ∀ room items, (∀ x ∈ items, P room x) → P (room + 1) (.arr items))
  (hempty : ∀ room, P (room + 1) (.obj []))
  (hput : ∀ room (ms : Members) key v, P (room + 1) (.obj ms) → P room v →
    P (room + 1) (.obj (ms.put key v)))

include hscalar harr hempty hput

/-- What holds of the values without parts that are read, and passes from the parts of a value, for which
there is less room, to the value, holds of all that is read of a text, with any fuel. -/
theorem forall_of_readValue (fuel : Nat) :
    (∀ room s v r, readValue fuel room s = .ok (v, r) → P room v) ∧
      (∀ room s items r, readItems fuel room s = .ok (items, r) → ∀ x ∈ items, P room x) ∧
        ∀ room sofar s ms r, P (room + 1) (.obj sofar) → readMembers fuel room sofar s = .ok (ms, r) →
          P (room + 1) (.obj ms) := by
  induction fuel with
  | zero =>
    refine ⟨fun room s v r h => ?_, fun room s items r h => ?_, fun room sofar s ms r _ h => ?_⟩
    · cases h
    · cases h
    · cases h
  | succ fuel ih =>
    obtain ⟨hvalue, hitems, hmembers⟩ := ih
    refine ⟨fun room s v r h => ?value, fun room s items r h => ?items, fun room sofar s ms r hsofar h =>
      ?members⟩
    case value =>
      unfold readValue at h
      split at h
      · obtain ⟨n, rfl, hread⟩ := ifRoom_eq_ok h
        split at hread
        · cases hread
          exact harr n [] (by simp)
        · obtain ⟨p, hp, he⟩ := map_eq_ok.mp hread
          cases he
          exact harr n _ (hitems _ _ _ _ hp)
      · obtain ⟨n, rfl, hread⟩ := ifRoom_eq_ok h
        split at hread
        · cases hread
          exact hempty n
        · obtain ⟨p, hp, he⟩ := map_eq_ok.mp hread
          cases he
          exact hmembers n _ _ _ _ (hempty n) hp
      · exact hscalar _ _ (scalar_of_readScalar h)
    case items =>
      unfold readItems at h
      split at h
      · cases h
      rename_i v r' hv
      have hfirst := hvalue _ _ _ _ hv
      split at h
      · cases h
        exact List.forall_mem_singleton.mpr hfirst
      · obtain ⟨p, hp, he⟩ := map_eq_ok.mp h
        cases he
        exact List.forall_mem_cons.mpr ⟨hfirst, hitems _ _ _ _ hp⟩
      · cases h
    case members =>
      unfold readMembers at h
      split at h
      · split at h
        · cases h
        split at h
        · split at h
          · cases h
          rename_i v r' hv
          have hmember := fun key => hput room sofar key v hsofar (hvalue _ _ _ _ hv)
          dsimp only at h
          split at h
          · cases h
            exact hmember _
          · exact hmembers _ _ _ _ _ (hmember _) h
          · cases h
        · cases h
      · cases h

theorem forall_of_readWithin {room : Nat} {s : List Point} {v : Json} (h : readWithin room s = .ok v) :
    P room v := by
  unfold readWithin at h
  split at h
  · cases h
  rename_i w r hw
  split at h
  · cases h
    exact (forall_of_readValue hscalar harr hempty hput _).1 _ _ _ _ hw
  · cases h

end

/-- **In a value that was read no key comes twice.** -/
theorem keyed_of_readWithin {room : Nat} {s : List Point} {v : Json} (h : readWithin room s = .ok v) :
    v.Keyed :=
  forall_of_readWithin (P := fun _ v => v.Keyed) (fun _ _ => Scalar.keyed) (fun _ _ => .arr)
    (fun _ => keyed_empty) (fun _ _ key _ hms hv => hms.put key hv) h

theorem keyed_of_readBody [Platform] {bytes : List UInt8} {v : Json} (h : readBody bytes = .ok v) :
    v.Keyed := by
  unfold readBody at h
  split at h
  · cases h
  · split at h
    · rename_i w hw
      cases h
      exact keyed_of_readWithin hw
    · cases h

theorem allShort_getD_get? {v : Json} (h : v.allShort = true) (key : Text) :
    ((v.get? key).getD .null).allShort = true := by
  cases v with
  | obj ms =>
    cases hx : Members.get? ms key with
    | none =>
      rw [get?, hx]
      rfl
    | some x =>
      rw [get?, hx]
      exact allShortMembers_iff.mp h _ (Members.mem_of_get? hx)
  | _ => rfl

/-- **Every whole number in a value that was read is short enough to be written.** -/
theorem allShort_of_readWithin {room : Nat} {s : List Point} {v : Json} (h : readWithin room s = .ok v) :
    v.allShort = true := by
  refine forall_of_readWithin (P := fun _ v => v.allShort = true) (fun _ _ => Scalar.allShort)
    (fun _ _ => allShortItems_iff.mpr) (fun _ => rfl) (fun _ ms key v hms hv => ?_) h
  refine allShortMembers_iff.mpr fun m hm => ?_
  rcases Members.mem_put hm with rfl | hm
  · exact hv
  · exact allShortMembers_iff.mp hms m hm

end DidRegistry.Json
