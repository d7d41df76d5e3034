import DidRegistry.Proofs.Schema

/-!
# Values with one part changed

A member of an object or an item of a list is put through a function, and everything else is left as it is.

## Results

* `Json.get?_amend_self`, `Json.get?_amend_of_ne` — what the members of the value are then.
* `Schema.object_faults_amend` — **an object that meets its schema still does**, when the new value of the
  member meets what is asked of the old one.
-/

set_option autoImplicit false

namespace DidRegistry

namespace Json

/-- Members with those of the name `key` put through `f`. -/
def Members.amend (key : Text) (f : Json → Json) (ms : Members) : Members :=
  ms.map fun m => (m.1, if m.1 = key then f m.2 else m.2)

/-- A value with its member `key` put through `f`, if it has that member. -/
def amend (key : Text) (f : Json → Json) : Json → Json
  | .obj ms => .obj (Members.amend key f ms)
  | v => v

/-- A value with its item number `i` put through `f`, if it has that item. -/
def amendItem (i : Nat) (f : Json → Json) : Json → Json
  | .arr items => .arr (items.modify i f)
  | v => v

variable {key other : Text} {f : Json → Json}

theorem Members.get?_amend (ms : Members) :
    get? (amend key f ms) other = if other = key then (get? ms other).map f else get? ms other := by
  induction ms with
  | nil => simp [amend, get?]
  | cons m ms ih =>
    obtain ⟨k, x⟩ := m
    simp only [amend, get?, List.map_cons, List.lookup_cons] at ih ⊢
    by_cases hother : other = k
    · subst hother
      by_cases hk : other = key <;> simp [hk]
    · rw [beq_eq_false_iff_ne.mpr hother]
      exact ih

theorem get?_amend_self (v : Json) : (v.amend key f).get? key = (v.get? key).map f := by
  cases v with
  | obj ms => exact (Members.get?_amend ms).trans (if_pos rfl)
  | _ => rfl

theorem get?_amend_of_ne (h : other ≠ key) (v : Json) : (v.amend key f).get? other = v.get? other := by
  cases v with
  | obj ms => exact (Members.get?_amend ms).trans (if_neg h)
  | _ => rfl

end Json

/-- An object that meets its schema still does when one of its members is changed and still meets its own. -/
theorem Schema.object_faults_amend {required : List String} {isClosed : Bool}
    {properties : List (String × Schema)} {path : List String} {v : Json} {key : Text} {f : Json → Json}
    (h : (Schema.object required isClosed properties).faults path v = [])
    (hf : ∀ p ∈ properties, Text.ofString p.1 = key → ∀ x, faults (path ++ [p.1]) p.2 x = [] →
      faults (path ++ [p.1]) p.2 (f x) = []) :
    (Schema.object required isClosed properties).faults path (v.amend key f) = [] := by
  obtain ⟨ms, rfl, -, hmembers⟩ := object_fits h
  have hkeys : (Json.Members.amend key f ms).map (fun m => Json.str m.1) = ms.map fun m => .str m.1 :=
    List.map_map
  have habsent : ∀ k : String,
      (Json.Members.get? (Json.Members.amend key f ms) k).isNone = (Json.Members.get? ms k).isNone := by
    intro k
    rw [Json.Members.get?_amend]
    split <;> simp
  simp only [Json.amend, faults, List.append_eq_nil_iff, hkeys, habsent] at h ⊢
  refine ⟨h.1, memberFaults_eq_nil_iff.mpr fun p hp x hx => ?_⟩
  rw [Json.Members.get?_amend] at hx
  split at hx
  · rename_i hkey
    obtain ⟨y, hy, rfl⟩ := Option.map_eq_some_iff.mp hx
    exact hf p hp hkey y (hmembers p hp y hy)
  · exact hmembers p hp x hx

end DidRegistry
