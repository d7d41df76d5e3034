import DidRegistry.Proofs.Biography.HandedOut

/-!
# Read at once or built step by step

A history arrives in one of two forms: as one value that lists its transactions, or page by page, so that
each transaction is appended to a draft as it comes in.  The first form is read as a whole and refused as a
whole; in the second one every transaction is read on its own, and the check stands at the very end.  Both
come to the same: the same lists are accepted, and they give the same biography.

## Results

* `BiographyDraft.take_appendJson` — the step lemma: an open draft takes exactly what can be read as an entry
  of its subject.
* `BiographyDraft.results_appendJson_iff` — the run lemma, by induction on the values: all of them are taken
  when the list can be read, and what is finished then is the draft with the entries of the list.
* `Biography.ofJson_listing_iff` — **reading a list of transactions gives a biography exactly when appending
  them one by one does, and gives the same one**.
-/

set_option autoImplicit false

namespace DidRegistry

namespace BiographyDraft

variable {draft : BiographyDraft} {status : Option Status} {b : Biography}

/-- The draft with more entries at its end. -/
def extended (draft : BiographyDraft) (rs : List Entry) : BiographyDraft :=
  { draft with entries := draft.entries ++ rs }

/-- An open draft takes exactly what can be read as an entry of its subject; what cannot be read leaves it as
it is. -/
theorem take_appendJson [Platform] (hopen : draft.isClosed = false) (v : Json) :
    draft.take (.appendJson v) =
      match Entry.ofJson v draft.subject with
      | .ok r => (.taken r, draft.extended [r])
      | .error e => (.refused (.entry e), draft) := by
  unfold take appendJson
  cases hv : Entry.ofJson v draft.subject with
  | error e => simp only [hv]
  | ok r => simp [hv, append, hopen, Except.map, extended]

/-- All values are taken and the draft is finished as `b` exactly when the values can be read as entries and
the draft with these entries is finished so. -/
theorem results_appendJson_iff [Platform] (hopen : draft.isClosed = false) {vs : List Json} {rs : List Entry}
    (index : Nat) :
    draft.results (vs.map .appendJson ++ [.finish status]) = rs.map .taken ++ [.finished b] ↔
      Biography.readEntries draft.subject index vs = .ok rs ∧
        ((draft.extended rs).take (.finish status)).1 = .finished b := by
  induction vs generalizing draft rs index with
  | nil =>
    cases rs with
    | nil => simp [results, Biography.readEntries, extended]
    | cons r rs => simp [results, Biography.readEntries]
  | cons v vs ih =>
    rw [List.map_cons, List.cons_append, results, take_appendJson hopen]
    unfold Biography.readEntries
    cases hv : Entry.ofJson v draft.subject with
    | error e => cases rs <;> simp
    | ok r =>
      have hnext : (draft.extended [r]).isClosed = false := hopen
      cases rs with
      | nil =>
        have hne : ∀ es, r :: es ≠ [] := fun es => List.cons_ne_nil r es
        simp [map_eq_ok, hne]
      | cons s rs =>
        have hone : (draft.extended [r]).extended rs = draft.extended (r :: rs) := by
          simp [extended]
        simp only [List.map_cons, List.cons_append, List.cons.injEq, Result.taken.injEq, map_eq_ok]
        rw [ih hnext (index + 1), hone]
        constructor
        · rintro ⟨rfl, hread, hfinish⟩
          exact ⟨⟨rs, hread, rfl, rfl⟩, hfinish⟩
        · rintro ⟨⟨es, hread, rfl, rfl⟩, hfinish⟩
          exact ⟨rfl, hread, hfinish⟩

end BiographyDraft

namespace Biography

variable {variety : Variety} {subject : Text} {status : Status} {vs : List Json}

/-- The value that lists the transactions of a subject, and gives the subject and its status. -/
def listing (variety : Variety) (subject : Text) (status : Status) (vs : List Json) : Json :=
  .obj [(Text.ofString variety.subjectKey, .str subject), ("status", .int status.code),
    ("transaction", .arr vs)]

theorem subjectOf_listing_iff {s : Json} :
    subjectOf variety (listing variety subject status vs) = .ok s ↔
      s = .str subject ∧ s.isPresent = true := by
  have hget : (listing variety subject status vs).get? variety.subjectKey = some (.str subject) := by
    cases variety <;> rfl
  rw [subjectOf_eq_ok_iff, hget, Option.some.injEq]
  constructor
  · rintro ⟨rfl, -, hp⟩
    exact ⟨rfl, hp⟩
  · rintro ⟨rfl, hp⟩
    exact ⟨rfl, rfl, hp⟩

theorem statusOf_listing : statusOf (.str subject) (listing variety subject status vs) = .ok status := by
  have hget : (listing variety subject status vs).get? "status" = some (.int status.code) := by
    cases variety <;> rfl
  exact statusOf_of_code hget

theorem entriesOf_listing : entriesOf (.str subject) (listing variety subject status vs) = .ok vs := by
  cases variety <;> rfl

theorem isPresent_of_check [Platform] {b : Biography} (h : b.check = .ok ()) :
    b.subject.isPresent = true := by
  obtain ⟨t, owner, ht, ho, -⟩ := (check_eq_ok_iff.mp h).entries
  rw [ht]
  exact isPresent_of_ownerOf ho

/-- A listing gives the biography with the entries that are read from its values, if that one passes its
check. -/
theorem ofJson_listing_eq_ok [Platform] {b : Biography} :
    ofJson variety (listing variety subject status vs) = .ok b ↔
      ∃ rs, readEntries (.str subject) 0 vs = .ok rs ∧
        b = ⟨variety, .str subject, status, rs⟩ ∧ b.check = .ok () := by
  rw [ofJson_eq_ok_iff]
  constructor
  · obtain ⟨v, s, st, rs⟩ := b
    rintro ⟨rfl, ⟨-, hs, hst, items, hi, hr⟩, hc⟩
    obtain ⟨rfl, -⟩ := subjectOf_listing_iff.mp hs
    cases statusOf_listing.symm.trans hst
    cases entriesOf_listing.symm.trans hi
    exact ⟨rs, hr, rfl, hc⟩
  · rintro ⟨rs, hr, rfl, hc⟩
    have hs : subjectOf variety (listing variety subject status vs) = .ok (.str subject) :=
      subjectOf_listing_iff.mpr ⟨rfl, isPresent_of_check hc⟩
    exact ⟨rfl, ⟨⟨_, rfl⟩, hs, statusOf_listing, vs, entriesOf_listing, hr⟩, hc⟩

/-- **Reading a list of transactions gives a biography exactly when appending them one by one does**: every
value is taken by a new draft, in order, and the draft is then finished, with the same status, as that very
biography. -/
theorem ofJson_listing_iff [Platform] (variety : Variety) (subject : Text) (status : Status) (vs : List Json)
    (b : Biography) :
    ofJson variety (listing variety subject status vs) = .ok b ↔
      ∃ rs : List Entry, (BiographyDraft.empty variety (.str subject)).results
        (vs.map .appendJson ++ [.finish (some status)]) = rs.map .taken ++ [.finished b] := by
  rw [ofJson_listing_eq_ok]
  constructor
  · rintro ⟨rs, hread, rfl, hc⟩
    refine ⟨rs, (BiographyDraft.results_appendJson_iff rfl 0).mpr ⟨hread, ?_⟩⟩
    exact BiographyDraft.take_finish_eq.mpr ⟨rfl, hc⟩
  · rintro ⟨rs, h⟩
    obtain ⟨hread, hfinish⟩ := (BiographyDraft.results_appendJson_iff rfl 0).mp h
    obtain ⟨rfl, hc⟩ := BiographyDraft.take_finish_eq.mp hfinish
    exact ⟨rs, hread, rfl, hc⟩

end Biography

end DidRegistry
