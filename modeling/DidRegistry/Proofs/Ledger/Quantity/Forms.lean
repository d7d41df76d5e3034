import DidRegistry.Proofs.Ledger.Quantity

/-!
# Forms of a quantity

A value on the wire is documented to be a quantity in three forms: null stands for none, a whole number
for itself, and a text of `0x` and hexadecimal digits for the number that they write.  All of these are
read so, and nothing is refused but as a value.  Two things more are read, though: a truth value passes
for a whole number, and behind the mark a text may have what any hexadecimal numeral may have, low lines,
digits of other scripts and white space.

## Results

* `Quantity.read_eq_ok_iff` — what is read: the documented forms, and what is read besides.
* `Quantity.readAsDocumented_iff` — **a value is read as documented unless it is a truth value or a
  numeral with something else than hexadecimal digits behind its mark**.
-/

set_option autoImplicit false

namespace DidRegistry

namespace Quantity

open Text Text.Numeral

variable {v : Json} {n : Option Number} {m : Number}

/-- The value is a quantity in one of the documented forms, and this is what it stands for: null for none,
a whole number for itself, and a text for the number that the digits behind its mark have to the base of
sixteen. -/
inductive Denotes : Json → Option Number → Prop where
  | none : Denotes .null none
  | whole (n : Int) : Denotes (.int n) (some (.int n))
  | digits {t : Text} {s : List Char} {ds : List Nat} (marked : t.chars = '0' :: 'x' :: s) (nonempty : s ≠ [])
      (values : List.Forall₂ (fun c d => hexDigit? c = some d) s ds) :
      Denotes (.str t) (some (.int (Nat.ofDigits 16 ds.reverse : Nat)))

/-- The value is read though it has none of the documented forms: a truth value as itself, and a text as the
numeral behind its mark, in which something else stands than hexadecimal digits. -/
inductive Overread : Json → Number → Prop where
  | flag (b : Bool) : Overread (.bool b) (.flag b)
  | numeral {t : Text} {s : List Char} {ds : List Nat} (marked : t.chars = '0' :: 'x' :: s)
    (spelled : Spells s ds)
      (loose : ∃ c ∈ s, hexDigit? c = none) : Overread (.str t) (.int (Nat.ofDigits 16 ds.reverse : Nat))

/-- The value is read as documented: as what it stands for, and if it stands for nothing it is refused as a
value. -/
structure ReadAsDocumented (v : Json) : Prop where
  taken : ∀ n, read v = .ok n ↔ Denotes v n
  refused : (∀ n, ¬Denotes v n) → ∃ e, read v = .error e ∧ e.report.kind = .value

/-- **What is read**: the documented forms, and what is read besides. -/
theorem read_eq_ok_iff : read v = .ok n ↔ Denotes v n ∨ ∃ m, n = some m ∧ Overread v m := by
  constructor
  · intro h
    cases v with
    | null =>
      cases h
      exact .inl .none
    | int k =>
      cases h
      exact .inl (.whole k)
    | bool b =>
      cases h
      exact .inr ⟨_, rfl, .flag b⟩
    | str t =>
      obtain ⟨s, ds, ht, hds, rfl⟩ := read_str_iff.mp h
      by_cases hloose : ∃ c ∈ s, hexDigit? c = none
      · exact .inr ⟨_, rfl, .numeral ht hds hloose⟩
      · have hall : ∀ c ∈ s, (hexDigit? c).isSome := fun c hc =>
          Option.isSome_iff_ne_none.mpr fun hnone => hloose ⟨c, hc, hnone⟩
        obtain ⟨hvalues, hs⟩ := forall₂_of_spells hds hall
        exact .inl (.digits ht hs hvalues)
    | _ => cases h
  · rintro (h | ⟨m, rfl, h⟩)
    · cases h with
      | none => rfl
      | whole => rfl
      | digits ht hs hvalues => exact read_str_iff.mpr ⟨_, _, ht, spells_of_forall₂ hvalues hs, rfl⟩
    · cases h with
      | flag => rfl
      | numeral ht hds => exact read_str_iff.mpr ⟨_, _, ht, hds, rfl⟩

theorem Overread.not_denotes (h : Overread v m) (n : Option Number) : ¬Denotes v n := by
  intro hn
  cases h with
  | flag => cases hn
  | numeral ht _ hloose =>
    cases hn with
    | digits ht' _ hvalues =>
      obtain ⟨-, hchars⟩ := List.cons.inj (ht.symm.trans ht')
      obtain ⟨-, rfl⟩ := List.cons.inj hchars
      obtain ⟨c, hc, hnone⟩ := hloose
      have hsome := isSome_of_forall₂ hvalues c hc
      rw [hnone] at hsome
      cases hsome

/-- **A value is read as documented unless it is a truth value or a numeral with something else than
hexadecimal digits behind its mark.**  A truth value is read as itself, and such a numeral as the number
that it writes. -/
theorem readAsDocumented_iff (v : Json) :
    (ReadAsDocumented v ↔ ¬∃ m, Overread v m) ∧ ∀ m, Overread v m → read v = .ok (some m) := by
  have hover : ∀ m, Overread v m → read v = .ok (some m) := fun m hm => read_eq_ok_iff.mpr (.inr ⟨m, rfl, hm⟩)
  refine ⟨⟨?_, fun hnone => ⟨fun n => ?_, fun hn => ?_⟩⟩, hover⟩
  · rintro ⟨htaken, -⟩ ⟨m, hm⟩
    exact hm.not_denotes _ ((htaken _).mp (hover m hm))
  · rw [read_eq_ok_iff]
    exact or_iff_left fun ⟨m, _, hm⟩ => hnone ⟨m, hm⟩
  · cases hread : read v with
    | error e => exact ⟨e, rfl, Report.kind_showing rfl _⟩
    | ok n =>
      rcases read_eq_ok_iff.mp hread with h | ⟨m, -, hm⟩
      · exact (hn n h).elim
      · exact (hnone ⟨m, hm⟩).elim

/-- A quantity with a blank behind it. -/
theorem readAsDocumented_iff_blank :
    Overread (.str "0x1 ") (.int 1) ∧ read (.str "0x1 ") = .ok (some (.int 1)) := by
  have hspelled : Spells ['1', ' '] [1] :=
    @Spells.intro [] ['1'] [' '] [1] (.inl rfl) (.single rfl) (List.forall_mem_singleton.mpr rfl)
  have hover : Overread (.str "0x1 ") (.int 1) := .numeral rfl hspelled ⟨' ', by decide, rfl⟩
  exact ⟨hover, (readAsDocumented_iff (.str "0x1 ")).2 _ hover⟩

/-- **A text with a low line, a digit of another script and a line feed passes for a quantity, and a truth
value for a whole number.** -/
theorem not_readAsDocumented_loose :
    (read (.str "0x_\uff11\n") = .ok (some (.int 1)) ∧ ¬ReadAsDocumented (.str "0x_\uff11\n")) ∧
      read (.bool true) = .ok (some (.flag true)) ∧ ¬ReadAsDocumented (.bool true) := by
  have hover : ∀ {v m}, Overread v m → read v = .ok (some m) ∧ ¬ReadAsDocumented v := fun {v m} hm => by
    have hread : read v = .ok (some m) := read_eq_ok_iff.mpr (.inr ⟨m, rfl, hm⟩)
    exact ⟨hread, fun h => hm.not_denotes _ ((h.taken _).mp hread)⟩
  have hspelled : Spells ['_', '\uff11', '\n'] [1] :=
    @Spells.intro ['_'] ['\uff11'] ['\n'] [1] (.inr rfl) (.single (by decide))
      (List.forall_mem_singleton.mpr rfl)
  exact ⟨hover (.numeral rfl hspelled ⟨'_', by decide, rfl⟩), hover (.flag true)⟩

end Quantity

end DidRegistry
