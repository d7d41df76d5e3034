import DidRegistry.Document.Current
import DidRegistry.Proofs.Biography.WellFormed

/-!
# The current document of a history

The document that the latest transaction with one carries, said without the search for it from the end
of the history.  It is about the DID that the history is about: every payload with a document names the
subject, and the text of a DID reads back as that DID.

## Results

* `Biography.document_eq_some_iff` — the current document of a history with transactions.
* `Biography.WellFormed.document_subject` — **in a well formed history of a DID, the latest document is
  about that DID**.
-/

set_option autoImplicit false

namespace DidRegistry

/-! ## Documents -/

namespace DidDocument

theorem ofJson_eq_ok {v : Json} {isDeactivated : Bool} {d : DidDocument}
    (h : ofJson v isDeactivated = .ok d) :
    (∃ id, v.get? "id" = some id ∧ Did.parse id = .ok d.subject) ∧
      (∃ items, entriesOf v = .ok items ∧ methodsOf d.subject items = .ok d.methods) ∧
      controllersOf ((v.get? "controller").getD .null) = .ok d.controllers ∧
      d.isDeactivated = isDeactivated := by
  unfold ofJson at h
  split at h
  · obtain ⟨subject, hs, h⟩ := bind_eq_ok.mp h
    obtain ⟨items, hi, h⟩ := bind_eq_ok.mp h
    obtain ⟨methods, hm, h⟩ := bind_eq_ok.mp h
    obtain ⟨controllers, hc, h⟩ := bind_eq_ok.mp h
    cases h
    refine ⟨?_, ⟨items, hi, hm⟩, hc, rfl⟩
    unfold subjectOf at hs
    split at hs
    · cases hs
    · rename_i id hid
      exact ⟨id, hid, mapError_eq_ok.mp hs⟩
  · cases h

theorem ofPayload_eq_ok [Platform] {payload : Except Payload.Error (List UInt8)} {isDeactivated : Bool}
    {d : DidDocument} :
    ofPayload payload isDeactivated = .ok d ↔
      ∃ bytes ms, payload = .ok bytes ∧ Payload.objectOf bytes = .ok ms ∧
        ofJson (.obj ms) isDeactivated = .ok d := by
  unfold ofPayload
  cases payload with
  | error e => simp
  | ok bytes =>
    cases hms : Payload.objectOf bytes with
    | error e => simp [hms]
    | ok ms => simp [hms, mapError_eq_ok]

end DidDocument

/-! ## The latest document -/

namespace Biography

/-- The transaction `r` is the latest one that carries a document. -/
def IsLatestDocument (b : Biography) (r : Entry) : Prop :=
  ∃ before after, b.entries = before ++ r :: after ∧
    Variety.did.carriesDocument r.operation.kind = true ∧
    ∀ x ∈ after, Variety.did.carriesDocument x.operation.kind = false

theorem latestDocument?_eq_some {b : Biography} {r : Entry} :
    b.latestDocument? = some r ↔ b.IsLatestDocument r := by
  unfold latestDocument? IsLatestDocument
  rw [List.find?_eq_some_iff_append]
  constructor
  · rintro ⟨hr, later, earlier, he, hn⟩
    have hb : b.entries = earlier.reverse ++ r :: later.reverse := by
      rw [← List.reverse_reverse b.entries, he]
      simp
    refine ⟨_, _, hb, hr, fun x hx => ?_⟩
    simpa using hn x (List.mem_reverse.mp hx)
  · rintro ⟨before, after, he, hr, hn⟩
    refine ⟨hr, after.reverse, before.reverse, by simp [he], fun x hx => ?_⟩
    simpa using hn x (List.mem_reverse.mp hx)

theorem status_ne_notFound [Platform] {b : Biography} (hc : b.check = .ok ()) {r : Entry}
    (hr : b.entries.getLast? = some r) : b.status ≠ .notFound := by
  intro hs
  rw [(check_eq_ok_iff.mp hc).found.mp hs] at hr
  cases hr

theorem document_of_notFound [Platform] {b : Biography} (hs : b.status = .notFound) : b.document = .ok none :=
  if_pos hs

/-- The current document is the one that the latest transaction with a document carries. -/
theorem document_eq_some_iff [Platform] {b : Biography} (hs : b.status ≠ .notFound)
    {current : DidDocument} :
    b.document = .ok (some current) ↔
      ∃ r, b.IsLatestDocument r ∧
        DidDocument.ofPayload (Payload.bytes r.operation.payload) (b.status = .ended) = .ok current := by
  unfold document
  rw [if_neg hs]
  simp only [← latestDocument?_eq_some]
  cases hr : b.latestDocument? with
  | none => simp
  | some r =>
    cases hd : DidDocument.ofPayload (Payload.bytes r.operation.payload) (b.status = .ended) <;>
      simp [hd]

theorem document_ne_none [Platform] {b : Biography} (hs : b.status ≠ .notFound) :
    b.document ≠ .ok none := by
  intro h
  unfold document at h
  rw [if_neg hs] at h
  split at h
  · cases h
  · split at h <;> cases h

/-- **In a well formed history of a DID, the latest document is about that DID.** -/
theorem WellFormed.document_subject [Platform] {b : Biography} (hw : b.WellFormed) (hv : b.variety = .did)
    {subject : Text} {did : Did} (hs : b.subject = .str subject) (hd : Did.parse (.str subject) = .ok did)
    {r : Entry} (hr : b.IsLatestDocument r) {isDeactivated : Bool} {d : DidDocument}
    (h : DidDocument.ofPayload (Payload.bytes r.operation.payload) isDeactivated = .ok d) :
    d.subject = did := by
  obtain ⟨bytes, ms, hbytes, hms, hj⟩ := DidDocument.ofPayload_eq_ok.mp h
  obtain ⟨⟨id, hid, hparse⟩, -⟩ := DidDocument.ofJson_eq_ok hj
  obtain ⟨before, after, he, hkind, -⟩ := hr
  obtain ⟨t, owner, hsub, -, hall⟩ := hw.entries
  have hsuits := hall r (by rw [he]; exact List.mem_append_right _ List.mem_cons_self)
  rw [hv] at hsuits
  rw [hs] at hsub
  cases hsub
  cases hsuits.payload with
  | document _ hbytes' hms' about =>
    rw [hbytes] at hbytes'
    cases hbytes'
    rw [hms] at hms'
    cases hms'
    have hnamed : id = .str subject := Option.some.inj (hid.symm.trans (about rfl))
    rw [hnamed, hd] at hparse
    exact (Except.ok.inj hparse).symm
  | name hn => exact absurd (Variety.carriesDocument_eq_true.mp hkind) hn

end Biography

end DidRegistry
