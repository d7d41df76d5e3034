import DidRegistry.Platform.Usual
import DidRegistry.Proofs.Biography.Document
import DidRegistry.Proofs.Biography.Extension
import DidRegistry.Proofs.Biography.Payload
import DidRegistry.Proofs.Document.Reading

/-!
# The current document of a history that was read

Keys that a DID has given up stay out of force only if nobody is handed an older document of it.  The document
of a history is the one that its latest operation with a document carries: when that one cannot be read there
is no document, and no older one takes its place.  A history that was read has passed its check, so that the
payload of every such operation is known to hold a JSON object, and all that can be wrong with it is that the
object is no document.

## Results

* `Entry.Reads.kind` — what is no document is refused as one that is malformed.
* `Biography.WellFormed.reads` — the latest document of a well formed history is read from a JSON object.
* `Biography.settles_document`, `Biography.document_eq_iff` — what the current document comes to, and that it
  comes to nothing else.
* `Biography.document_error_iff`, `Biography.document_about` — when there is none to be had, and what is known
  of one.
* `Biography.document_latest` — **the current document is the latest one, whether it can be read or not**.
-/

set_option autoImplicit false

namespace DidRegistry

/-- Read as a document, the JSON object in the payload of the entry comes to `outcome`. -/
def Entry.Reads [Platform] (r : Entry) (isDeactivated : Bool) (outcome : Except DocumentError DidDocument) :
    Prop :=
  ∃ bytes ms, Payload.bytes r.operation.payload = .ok bytes ∧ Payload.objectOf bytes = .ok ms ∧
    DidDocument.ofJson (.obj ms) isDeactivated = outcome

theorem Entry.Reads.ofPayload [Platform] {r : Entry} {isDeactivated : Bool}
    {outcome : Except DocumentError DidDocument} (h : r.Reads isDeactivated outcome) :
    DidDocument.ofPayload (Payload.bytes r.operation.payload) isDeactivated = outcome.mapError .document := by
  obtain ⟨bytes, ms, hbytes, hms, rfl⟩ := h
  simp only [DidDocument.ofPayload, hbytes, hms]

/-- What is wrong with the JSON object in a payload is that it is a malformed document: nothing that was
read is too long or too deep to be shown. -/
theorem Entry.Reads.kind [Platform] {r : Entry} {isDeactivated : Bool} {fault : DocumentError}
    (h : r.Reads isDeactivated (.error fault)) : fault.report.kind = .malformedDocument := by
  obtain ⟨bytes, ms, -, hms, hfault⟩ := h
  obtain ⟨cs, -, hread⟩ := Payload.objectOf_eq_ok_iff.mp hms
  have hshowable := (Json.isShowable_of_readWithin hread).mono Platform.readRoom_le
  exact (DocumentError.isMalformed (DidDocument.isShown_of_ofJson hshowable hfault)).wraps.kind_eq

namespace Biography

variable {b : Biography} {r : Entry}

/-- The latest document of a well formed history is read from a JSON object, and it comes to something. -/
theorem WellFormed.reads [Platform] (hw : b.WellFormed) (hv : b.variety = .did) (hr : b.IsLatestDocument r)
    (isDeactivated : Bool) : ∃ outcome, r.Reads isDeactivated outcome := by
  obtain ⟨before, after, hentries, hkind, -⟩ := hr
  obtain ⟨subject, owner, -, -, hall⟩ := hw.entries
  have hmem : r ∈ b.entries := by simp [hentries]
  have hsuits := hall r hmem
  rw [hv] at hsuits
  cases hsuits.payload with
  | document _ hbytes hms _ => exact ⟨_, _, _, hbytes, hms, rfl⟩
  | name hn => exact absurd (Variety.carriesDocument_eq_true.mp hkind) hn

theorem latestDocument?_eq_none :
    b.latestDocument? = none ↔ ∀ r ∈ b.entries, Variety.did.carriesDocument r.operation.kind = false := by
  simp [latestDocument?]

/-- What the current document of a history comes to: none when the subject is not found; otherwise what the
latest transaction with a document carries, or a refusal that says what is wrong with it, or that there is no
such transaction. -/
inductive Settles [Platform] (b : Biography) : Except BiographyError (Option DidDocument) → Prop where
  | notFound (status : b.status = .notFound) : Settles b (.ok none)
  | read {r : Entry} {d : DidDocument} (found : b.status ≠ .notFound) (latest : b.IsLatestDocument r)
      (carried : r.Reads (b.status = .ended) (.ok d)) : Settles b (.ok (some d))
  | unreadable {r : Entry} {fault : DocumentError} (found : b.status ≠ .notFound)
      (latest : b.IsLatestDocument r) (carried : r.Reads (b.status = .ended) (.error fault)) :
      Settles b (.error (.badDocument b.subject r.txid fault.report))
  | without (found : b.status ≠ .notFound)
      (none : ∀ r ∈ b.entries, Variety.did.carriesDocument r.operation.kind = false) :
      Settles b (.error (.noDocument b.subject))

/-- The current document comes to one of these. -/
theorem settles_document [Platform] (hw : b.WellFormed) (hv : b.variety = .did) : b.Settles b.document := by
  by_cases hs : b.status = .notFound
  · rw [document_of_notFound hs]
    exact .notFound hs
  unfold document
  rw [if_neg hs]
  cases hr : b.latestDocument? with
  | none => exact .without hs (latestDocument?_eq_none.mp hr)
  | some r =>
    have hlatest := latestDocument?_eq_some.mp hr
    obtain ⟨outcome, hreads⟩ := hw.reads hv hlatest (b.status = .ended)
    simp only [hreads.ofPayload]
    cases outcome with
    | ok d => exact .read hs hlatest hreads
    | error fault => exact .unreadable hs hlatest hreads

theorem Settles.eq_document [Platform] {outcome : Except BiographyError (Option DidDocument)}
    (h : b.Settles outcome) :
    b.document = outcome := by
  cases h with
  | notFound hs => exact document_of_notFound hs
  | read hs hlatest hreads | unreadable hs hlatest hreads =>
    unfold document
    rw [if_neg hs]
    simp only [latestDocument?_eq_some.mpr hlatest, hreads.ofPayload]
    rfl
  | without hs hwithout =>
    unfold document
    rw [if_neg hs]
    simp only [latestDocument?_eq_none.mpr hwithout]

/-- Whatever is wrong with the current document, it is told as a malformed history. -/
theorem Settles.wraps [Platform] {e : BiographyError} (h : b.Settles (.error e)) :
    ∃ cause, e.report.Wraps .malformedBiography [.malformedDocument] cause := by
  cases h with
  | @unreadable r fault hs hlatest hreads =>
    have hkind := hreads.kind
    have hshallow : fault.report.kind ≠ .tooDeep := by simp [hkind]
    refine ⟨some fault.report, ?_⟩
    simp only [BiographyError.report, if_neg hshallow]
    exact Report.wraps_because rfl (by simp [hkind])
  | without => exact ⟨none, Report.wraps_none rfl rfl⟩

/-- What the current document comes to is settled by the history. -/
theorem document_eq_iff [Platform] (hw : b.WellFormed) (hv : b.variety = .did)
    {outcome : Except BiographyError (Option DidDocument)} : b.document = outcome ↔ b.Settles outcome := by
  constructor
  · intro hd
    exact hd ▸ settles_document hw hv
  · exact Settles.eq_document

theorem document_eq_none_iff [Platform] (hw : b.WellFormed) (hv : b.variety = .did) :
    b.document = .ok none ↔ b.status = .notFound := by
  rw [document_eq_iff hw hv]
  constructor
  · intro h
    cases h with
    | notFound hs => exact hs
  · exact .notFound

/-- There is no document to be had exactly when the latest transaction with a document carries none, or when
there is no such transaction. -/
theorem document_error_iff [Platform] (hw : b.WellFormed) (hv : b.variety = .did) :
    (∃ e, b.document = .error e) ↔ b.status ≠ .notFound ∧
      ((∀ r ∈ b.entries, Variety.did.carriesDocument r.operation.kind = false) ∨
        ∃ r fault, b.IsLatestDocument r ∧ r.Reads (b.status = .ended) (.error fault)) := by
  simp only [document_eq_iff hw hv]
  constructor
  · rintro ⟨e, he⟩
    cases he with
    | unreadable hs hlatest hreads => exact ⟨hs, .inr ⟨_, _, hlatest, hreads⟩⟩
    | without hs hwithout => exact ⟨hs, .inl hwithout⟩
  · rintro ⟨hs, hwithout | ⟨r, fault, hlatest, hreads⟩⟩
    · exact ⟨_, .without hs hwithout⟩
    · exact ⟨_, .unreadable hs hlatest hreads⟩

/-- The current document is about the DID whose history it is, and is marked when that is deactivated. -/
theorem document_about [Platform] (hw : b.WellFormed) (hv : b.variety = .did) :
    ∃ did, Did.parse b.subject = .ok did ∧ ∀ d, b.document = .ok (some d) →
      d.subject = did ∧ (d.isDeactivated = true ↔ b.status = .ended) := by
  obtain ⟨subject, did, hsubject, hdid, -⟩ := hw.entries
  rw [hv] at hdid
  refine ⟨did, hsubject ▸ hdid, ?_⟩
  intro d hd
  cases (document_eq_iff hw hv).mp hd with
  | read hs hlatest hreads =>
    have hpayload := hreads.ofPayload
    refine ⟨hw.document_subject hv hsubject hdid hlatest hpayload, ?_⟩
    obtain ⟨bytes, ms, -, -, hd⟩ := hreads
    simp [(DidDocument.ofJson_eq_ok hd).2.2.2]

/-- **The current document is the latest one.**  In a history of a DID that was read, there is no document
exactly when the DID is not found.  Otherwise it is the document of the latest transaction that carries
one; it is about the DID itself, and marked exactly when that is deactivated.  When this transaction
carries nothing that can be read, or when there is none, the history is refused as malformed, and in no
other way. -/
theorem document_latest [Platform] {v : Json} (h : ofJson .did v = .ok b) :
    (∀ outcome, b.document = outcome ↔ b.Settles outcome) ∧
      (b.document = .ok none ↔ b.status = .notFound) ∧
      (∃ did, Did.parse b.subject = .ok did ∧ ∀ d, b.document = .ok (some d) →
        d.subject = did ∧ (d.isDeactivated = true ↔ b.status = .ended)) ∧
      ((∃ e, b.document = .error e) ↔ b.status ≠ .notFound ∧
        ((∀ r ∈ b.entries, Variety.did.carriesDocument r.operation.kind = false) ∨
          ∃ r fault, b.IsLatestDocument r ∧ r.Reads (b.status = .ended) (.error fault))) ∧
      ∀ e, b.document = .error e →
        ∃ cause, e.report.Wraps .malformedBiography [.malformedDocument] cause := by
  obtain ⟨hv, hparts, hw⟩ := ofJson_eq_ok_iff_wellFormed.mp h
  refine ⟨fun _ => document_eq_iff hw hv, document_eq_none_iff hw hv, document_about hw hv,
    document_error_iff hw hv, ?_⟩
  intro e he
  exact ((document_eq_iff hw hv).mp he).wraps

/-- The history of a DID that is created without a key, updated to the document in this payload, and
deactivated. -/
def succession (payload : String) : Biography :=
  ⟨.did, .str "did:example:123", .ended, [.created, .sample '3' "update" payload 2, .deactivated]⟩

/-- A document with the key `#new`. -/
def succeeding : String := "eyJpZCI6ImRpZDpleGFtcGxlOjEyMyIsInB1YmxpY0tleSI6W3siaWQiOiIjbmV3In1dfQ"

/-- A document that is controlled by a number. -/
def uncontrolled : String := "eyJpZCI6ImRpZDpleGFtcGxlOjEyMyIsImNvbnRyb2xsZXIiOjd9"

section

attribute [local instance] Platform.usual

/-- The document of a deactivated DID is the one that it was updated to.  If that one cannot be read, the one
that it was created with does not count again. -/
theorem document_latest_succession :
    (∃ v d, ofJson .did v = .ok (succession succeeding) ∧ (succession succeeding).document = .ok (some d) ∧
      d.methods.map (·.id.toText) = ["did:example:123#new"] ∧
      d.subject = ⟨"example", "123"⟩ ∧ d.isDeactivated = true) ∧
    ∃ v e, ofJson .did v = .ok (succession uncontrolled) ∧ (succession uncontrolled).document = .error e ∧
      e.report.kind = .malformedBiography := by
  have hread : ∀ payload, ((succession payload).toJson.toOption.bind fun v => (ofJson .did v).toOption) =
      some (succession payload) → ∃ v, ofJson .did v = .ok (succession payload) := by
    intro payload h
    obtain ⟨v, -, hb⟩ := Option.bind_eq_some_iff.mp h
    exact ⟨v, toOption_eq_some.mp hb⟩
  constructor
  · obtain ⟨v, hv⟩ := hread succeeding (by decide +kernel)
    obtain ⟨-, -, ⟨did, hdid, habout⟩, -⟩ := document_latest hv
    have hmethods : ((succession succeeding).document.toOption.bind
        fun d => d.map fun d => d.methods.map (·.id.toText)) = some ["did:example:123#new"] := by
      decide +kernel
    obtain ⟨x, hx, hkeys⟩ := Option.bind_eq_some_iff.mp hmethods
    obtain ⟨d, rfl, hnew⟩ := Option.map_eq_some_iff.mp hkeys
    have hd := toOption_eq_some.mp hx
    obtain ⟨hsubject, hdead⟩ := habout d hd
    have hparsed : Did.parse (.str "did:example:123") = .ok ⟨"example", "123"⟩ :=
      toOption_eq_some.mp (by decide +kernel)
    cases hparsed.symm.trans hdid
    exact ⟨v, d, hv, hd, hnew, hsubject, hdead.mpr rfl⟩
  · obtain ⟨v, hv⟩ := hread uncontrolled (by decide +kernel)
    obtain ⟨-, -, -, -, hwraps⟩ := document_latest hv
    cases hd : (succession uncontrolled).document with
    | ok x =>
      have hnone : (succession uncontrolled).document.toOption = none := by decide +kernel
      simp [hd, Except.toOption] at hnone
    | error e =>
      obtain ⟨cause, hcause⟩ := hwraps e hd
      exact ⟨v, e, hv, rfl, hcause.kind_eq⟩

end

end Biography

end DidRegistry
