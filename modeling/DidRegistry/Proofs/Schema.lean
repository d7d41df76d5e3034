import DidRegistry.Proofs.Number
import DidRegistry.Schema

/-!
# Values that meet a schema

What is known of a value that has no fault: an object has what is required of it and its members meet their
own schemas, a text keeps its rule, and a whole number that is written with a fraction of zero stays a binary
number.

## Results

* `Schema.firstFault_eq_none_iff`, `Schema.firstFaultOf_eq_none` — a value without a first fault has none.
* `Schema.object_fits`, `Schema.string_fits`, `Schema.integer_fits` — what it means to meet a schema, one
  lemma for each form of schema that is read off.
-/

set_option autoImplicit false

namespace DidRegistry.Schema

theorem firstFault_eq_none_iff {schema : Schema} {v : Json} :
    schema.firstFault v = none ↔ schema.faults [] v = [] := by
  unfold firstFault
  cases schema.faults [] v <;> simp

/-- A mapping without a fault has none among the members that are texts. -/
theorem firstFaultOf_eq_none {schema : Schema} {es : Entries} (h : schema.firstFaultOf es = none) :
    schema.firstFault (.obj es.members) = none := by
  unfold firstFaultOf at h
  split at h
  · cases h
  · split at h
    · cases h
    · exact h
  · exact h

theorem memberFaults_eq_nil_iff {path : List String} {properties : List (String × Schema)}
    {ms : Json.Members} :
    memberFaults path properties ms = [] ↔
      ∀ p ∈ properties, ∀ v, Json.Members.get? ms p.1 = some v → faults (path ++ [p.1]) p.2 v = [] := by
  induction properties with
  | nil => simp [memberFaults]
  | cons p rest ih =>
    obtain ⟨key, schema⟩ := p
    rw [memberFaults, List.append_eq_nil_iff, ih, List.forall_mem_cons]
    refine and_congr ?_ Iff.rfl
    cases Json.Members.get? ms key <;> simp

variable {path : List String} {v : Json}

/-- A value that meets the schema of an object is one, it has the required members, and each member that is
known meets its own schema. -/
theorem object_fits {required : List String} {isClosed : Bool} {properties : List (String × Schema)}
    (h : (Schema.object required isClosed properties).faults path v = []) :
    ∃ ms, v = .obj ms ∧ (∀ key ∈ required, ∃ x, Json.Members.get? ms key = some x) ∧
      ∀ p ∈ properties, ∀ x, Json.Members.get? ms p.1 = some x → faults (path ++ [p.1]) p.2 x = [] := by
  cases v with
  | obj ms =>
    simp only [faults, List.append_eq_nil_iff, List.map_eq_nil_iff, List.filter_eq_nil_iff] at h
    refine ⟨ms, rfl, fun key hkey => ?_, memberFaults_eq_nil_iff.mp h.2⟩
    have hsome := h.1.1 key hkey
    exact Option.ne_none_iff_exists'.mp (by simpa using hsome)
  | _ => simp [faults] at h

/-- A value that meets the schema of a string is one and keeps the rule. -/
theorem string_fits {rule : StringRule} (h : (Schema.string rule).faults path v = []) :
    ∃ t, v = .str t ∧ StringRule.faults v t.chars rule = [] := by
  cases v with
  | str t =>
    simp only [faults, List.map_eq_nil_iff] at h
    exact ⟨t, rfl, h⟩
  | _ => simp [faults] at h

theorem pattern_fits {p : Pattern} (h : (Schema.string (.pattern p)).faults path v = []) :
    ∃ t, v = .str t ∧ p.fits t.chars = true := by
  obtain ⟨t, rfl, ht⟩ := string_fits h
  simp only [StringRule.faults] at ht
  split at ht
  · rename_i hfits
    exact ⟨t, rfl, hfits⟩
  · cases ht

/-- A value that meets the schema of a whole number with a least one is a whole number that is not below, or
a binary number; a truth value is neither. -/
theorem integer_fits {least : Int} (h : (Schema.integer (.least least)).faults path v = []) :
    (∃ n, v = .int n ∧ least ≤ n) ∨ ∃ x, v = .real x := by
  cases v with
  | int n =>
    simp only [faults, properNumber?, isWhole, LowerBound.faults] at h
    refine .inl ⟨n, rfl, Number.lt_eq_false_iff.mp (Bool.eq_false_iff.mpr fun hlt => ?_)⟩
    simp [hlt] at h
  | real x => exact .inr ⟨x, rfl⟩
  | _ => simp [faults, properNumber?] at h

end DidRegistry.Schema
