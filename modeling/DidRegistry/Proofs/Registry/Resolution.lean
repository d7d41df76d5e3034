import DidRegistry.Platform.Usual
import DidRegistry.Proofs.Biography.Refusal
import DidRegistry.Proofs.Ledger.Answer
import DidRegistry.Proofs.Registry.Resolver

/-!
# What asking for a history comes to

Whoever asks a resolver for the history of a subject tells three failures apart: the question names no
subject, the resolver gave no answer, and what it answered is no history of the subject.  Nothing else is
documented to come out, unless the response carries an error whose code is no whole number, or a result with
a payload that lies too deep for the platform or a whole number that cannot be shown.

## Results

* `Resolver.read_not_whole`, `Resolver.read_refused`, `Resolver.read_result` — what a response is read as.
* `Resolver.course_resolve_answers_iff` — a question ends as documented exactly when its response is legible.
* `Resolver.biographies_settle_iff` — **asking for the history of a DID or of a credential ends as documented
  exactly when the response is legible**.
-/

set_option autoImplicit false

namespace DidRegistry

namespace Resolver

open Dialogue

variable {r : Resolver} {variety : Variety} {subject : Text} {parameters : Json.Members}

/-! ## Documented ends -/

/-- How a question about a subject ends as it is documented.  The resolver gave no answer, because it was not
reached or because its response carries no result; or the result is no history of the subject; or it is one,
which is handed on; or the question is cancelled while it waits. -/
inductive Answers [Platform] (r : Resolver) (variety : Variety) (subject : Text) (parameters : Json.Members) :
    List Happening → Ending (Except ResolveError Biography) → Prop where
  | unreachable {b : Breakdown} {e : ResolveError} (kind : e.report.kind = .unresolved) :
      Answers r variety subject parameters
        [.answered (.post r.url (method variety) [.obj parameters]) (.error b)] (.finished (.error e))
  | refused {ms : Json.Members} {e : ResolveError} (resultless : Rpc.resultOf? (.ok (.obj ms)) = none)
      (kind : e.report.kind = .unresolved) :
      Answers r variety subject parameters
        [.answered (.post r.url (method variety) [.obj parameters]) (.ok (.obj ms))] (.finished (.error e))
  | malformed {ms : Json.Members} {v : Json} {e : ResolveError}
      (result : Rpc.resultOf? (.ok (.obj ms)) = some v)
      (unfit : ∀ b, Biography.ofJson variety v = .ok b → b.subject ≠ .str subject)
      (kind : e.report.kind = .malformedBiography) :
      Answers r variety subject parameters
        [.answered (.post r.url (method variety) [.obj parameters]) (.ok (.obj ms))] (.finished (.error e))
  | resolved {ms : Json.Members} {v : Json} {b : Biography} (result : Rpc.resultOf? (.ok (.obj ms)) = some v)
      (read : Biography.ofJson variety v = .ok b) (formed : b.WellFormed) (about : b.subject = .str subject) :
      Answers r variety subject parameters
        [.answered (.post r.url (method variety) [.obj parameters]) (.ok (.obj ms))] (.finished (.ok b))
  | cancelled :
      Answers r variety subject parameters [.abandoned (.post r.url (method variety) [.obj parameters])]
        .cancelled

/-- How asking about what a text names ends as it is documented: either the text is no identifier, and nothing
is sent, or a question about the subject is. -/
inductive Settles [Platform] (r : Resolver) (variety : Variety) (parameters : Text → Json.Members)
    (t : Text) :
    List Happening → Ending (Except ResolveError Biography) → Prop where
  | malformed {fault : IdentifierError} {e : ResolveError}
      (unread : Biography.identifierOf variety (.str t) = .error fault)
      (kind : e.report.kind = .malformedIdentifier) :
      Settles r variety parameters t [] (.finished (.error e))
  | asked {s : String} {hs : List Happening} {e : Ending (Except ResolveError Biography)}
      (named : Biography.identifierOf variety (.str t) = .ok s)
      (answers : Answers r variety s (parameters s) hs e) : Settles r variety parameters t hs e

/-- The kind of failure that a question ends with, if it fails. -/
def failure? [Platform] : Ending (Except ResolveError Biography) → Option Kind
  | .finished (.error e) => some e.report.kind
  | _ => none

/-- The failures that a question is documented to have. -/
def documentedFailures : List Kind := [.malformedIdentifier, .unresolved, .malformedBiography]

theorem Settles.failure_mem [Platform] {parameters : Text → Json.Members} {t : Text} {hs : List Happening}
    {e : Ending (Except ResolveError Biography)} {k : Kind} (h : Settles r variety parameters t hs e)
    (hk : failure? e = some k) : k ∈ documentedFailures := by
  cases h with
  | malformed unread kind =>
    cases hk
    rw [kind]
    decide
  | asked named answers =>
    cases answers with
    | unreachable kind | refused _ kind | malformed _ _ kind =>
      cases hk
      rw [kind]
      decide
    | resolved | cancelled => cases hk

/-- Reading the value as a biography does not stop at a payload that lies too deep for the platform, nor at a
subject or a status that cannot be shown. -/
def Readable [Platform] (variety : Variety) (v : Json) : Prop :=
  ∀ e, Biography.ofJson variety v = .error e → ¬e.IsTooDeep ∧ ¬e.IsUntold

/-! ## Responses -/

/-- What is wrong with a response that cannot be taken apart is reported as none of the failures that the
resolver is documented to have. -/
theorem kind_of_response [Platform] (e : Rpc.ResponseError) :
    (ResolveError.response e).report.kind ≠ .unresolved ∧
      (ResolveError.response e).report.kind ≠ .malformedBiography := by
  cases e with
  | shapeless => exact ⟨nofun, nofun⟩
  | code e =>
    cases e with
    | numeral e => cases e <;> exact ⟨nofun, nofun⟩
    | _ => exact ⟨nofun, nofun⟩

theorem read_not_whole [Platform] (variety : Variety) (subject : Text) {ms : Json.Members}
    (h : ¬Rpc.HasWholeCode ms) :
    ∃ e, read variety subject (.ok (.obj ms)) = .error (.response e) := by
  cases hparts : Rpc.read (.obj ms) with
  | ok x => exact absurd (Rpc.read_isOk_iff.mp ⟨x, hparts⟩) h
  | error e => exact ⟨e, by simp only [read, hparts]⟩

/-- A response without a result is reported as no answer. -/
theorem read_refused [Platform] (variety : Variety) (subject : Text) {ms : Json.Members}
    (h : Rpc.HasWholeCode ms) (hr : Rpc.resultOf? (.ok (.obj ms)) = none) :
    ∃ e, read variety subject (.ok (.obj ms)) = .error e ∧ e.report.kind = .unresolved := by
  obtain ⟨x, hx⟩ := Rpc.read_isOk_iff.mpr h
  cases x with
  | ok v =>
    rw [(Rpc.read_obj ms v).mp hx] at hr
    cases hr
  | error e => exact ⟨.refused subject (method variety) e, by simp only [read, hx], rfl⟩

theorem hasWholeCode_of_kind [Platform] {ms : Json.Members} {e : ResolveError}
    (h : read variety subject (.ok (.obj ms)) = .error e)
    (hkind : e.report.kind = .unresolved ∨ e.report.kind = .malformedBiography) : Rpc.HasWholeCode ms := by
  refine Classical.byContradiction fun hwhole => ?_
  obtain ⟨e', he⟩ := read_not_whole variety subject hwhole
  cases he.symm.trans h
  obtain ⟨hunresolved, hmalformed⟩ := kind_of_response e'
  exact hkind.elim hunresolved hmalformed

theorem read_result [Platform] {ms : Json.Members} {v : Json} (hr : Rpc.resultOf? (.ok (.obj ms)) = some v) :
    read variety subject (.ok (.obj ms)) =
      (Biography.answering variety subject v).mapError .biography := by
  simp only [read, (Rpc.read_obj ms v).mpr hr]

theorem answering_readable [Platform] (subject : Text) {v : Json} (h : Readable variety v) :
    (∃ b, Biography.answering variety subject v = .ok b ∧ Biography.ofJson variety v = .ok b ∧
        b.subject = .str subject) ∨
      ((∀ b, Biography.ofJson variety v = .ok b → b.subject ≠ .str subject) ∧
        ∃ e, Biography.answering variety subject v = .error e ∧ e.report.kind = .malformedBiography) := by
  unfold Biography.answering
  cases hv : Biography.ofJson variety v with
  | error e =>
    obtain ⟨hdeep, htold⟩ := h e hv
    rcases Biography.ofJson_error hv with hmalformed | htooDeep | ⟨huntold, -⟩
    · exact .inr ⟨nofun, e, rfl, hmalformed.kind⟩
    · exact absurd htooDeep hdeep
    · exact absurd huntold htold
  | ok b =>
    by_cases hs : b.subject = .str subject
    · exact .inl ⟨b, if_pos hs, rfl, hs⟩
    · refine .inr ⟨?_, _, if_neg hs, rfl⟩
      rintro c hc
      cases hc
      exact hs

theorem answering_error [Platform] (subject : Text) {v : Json} {e : BiographyError}
    (hv : Biography.ofJson variety v = .error e) : Biography.answering variety subject v = .error e := by
  unfold Biography.answering
  rw [hv]

theorem readable_of_kind [Platform] {v : Json} (h : ∀ e, Biography.ofJson variety v = .error e →
    e.report.kind = .malformedBiography) : Readable variety v := by
  refine fun e he => ⟨fun hdeep => ?_, fun huntold => ?_⟩
  · exact absurd (hdeep.kind.symm.trans (h e he)) nofun
  · rcases huntold.kind with hkind | hkind
    · exact absurd (hkind.symm.trans (h e he)) nofun
    · exact absurd (hkind.symm.trans (h e he)) nofun

/-! ## Questions -/

variable {m m' : Memory} {hs : List Happening}

theorem answers_of_legible [Platform] {ms : Json.Members} (hwhole : Rpc.HasWholeCode ms)
    (hreadable : ∀ v, Rpc.resultOf? (.ok (.obj ms)) = some v → Readable variety v) :
    Answers r variety subject parameters
      [.answered (.post r.url (method variety) [.obj parameters]) (.ok (.obj ms))]
      (.finished (read variety subject (.ok (.obj ms)))) := by
  cases hr : Rpc.resultOf? (.ok (.obj ms)) with
  | none =>
    obtain ⟨e, he, hkind⟩ := read_refused variety subject hwhole hr
    rw [he]
    exact .refused hr hkind
  | some v =>
    rw [read_result hr]
    rcases answering_readable subject (hreadable v hr) with
      ⟨b, hb, hv, hs⟩ | ⟨hunfit, e, he, hkind⟩
    · rw [hb]
      exact .resolved hr hv (Biography.check_eq_ok_iff.mp (Biography.ofJson_eq_ok hv).2) hs
    · rw [he]
      exact .malformed hr hunfit hkind

theorem legible_of_answers [Platform] {v : Json}
    (h : Answers r variety subject parameters
      [.answered (.post r.url (method variety) [.obj parameters]) (.ok v)]
      (.finished (read variety subject (.ok v)))) :
    ∃ ms, v = .obj ms ∧ Rpc.HasWholeCode ms ∧
      ∀ result, Rpc.resultOf? (.ok v) = some result → Readable variety result := by
  generalize hread : read variety subject (.ok v) = outcome at h
  cases h with
  | refused resultless kind =>
    refine ⟨_, rfl, hasWholeCode_of_kind hread (.inl kind), fun result hresult => ?_⟩
    rw [resultless] at hresult
    cases hresult
  | malformed result unfit kind =>
    refine ⟨_, rfl, hasWholeCode_of_kind hread (.inr kind), fun v hv => readable_of_kind fun e he => ?_⟩
    rw [read_result hv, answering_error subject he] at hread
    cases hread
    exact kind
  | resolved result read formed about =>
    refine ⟨_, rfl, ?_, fun v hv e he => ?_⟩
    · refine Classical.byContradiction fun hwhole => ?_
      obtain ⟨e', he⟩ := read_not_whole variety subject hwhole
      cases he.symm.trans hread
    · cases result.symm.trans hv
      cases read.symm.trans he

/-- **A question ends as documented exactly when its response is legible.** -/
theorem course_resolve_answers_iff [Platform] {e : Ending (Except ResolveError Biography)}
    (h : (r.resolve variety subject parameters).Course m hs e m') :
    Answers r variety subject parameters hs e ↔ Ledger.Legible (Readable variety) hs := by
  rcases course_resolve h with ⟨response, rfl, rfl⟩ | ⟨rfl, rfl⟩
  · cases response with
    | error b => exact iff_of_true (.unreachable rfl) Ledger.legible_broken
    | ok v =>
      refine Iff.trans ?_ Ledger.legible_answered.symm
      constructor
      · intro hanswers
        exact legible_of_answers hanswers
      · rintro ⟨ms, rfl, hwhole, hreadable⟩
        exact answers_of_legible hwhole hreadable
  · exact iff_of_true .cancelled Ledger.legible_abandoned

/-! ## Histories -/

/-- Asking about what a text names ends as documented exactly when the response, if there is one, is
legible. -/
theorem settles_iff [Platform] {parameters : Text → Json.Members} {t : Text}
    {d : Dialogue (Except ResolveError Biography)}
    (hd : d = match Biography.identifierOf variety (.str t) with
      | .error fault => .done (.error (.identifier fault))
      | .ok s => r.resolve variety s (parameters s))
    (w : Surroundings) (start : Progress) :
    Settles r variety parameters t (d.transcript w start) (d.run w start).1 ↔
      Ledger.Legible (Readable variety) (d.transcript w start) := by
  have hcourse := run_course w d start
  generalize d.transcript w start = hs at hcourse ⊢
  generalize (d.run w start).1 = e at hcourse ⊢
  subst hd
  cases hs : Biography.identifierOf variety (.str t) with
  | error fault =>
    rw [hs] at hcourse
    obtain ⟨rfl, rfl, -⟩ := course_done hcourse
    have hkind := IdentifierError.kind_of_isShown (Biography.isShown_of_identifierOf hs)
    exact iff_of_true (.malformed hs hkind) Ledger.legible_nil
  | ok s =>
    rw [hs] at hcourse
    rw [← course_resolve_answers_iff hcourse]
    constructor
    · intro h
      cases h with
      | malformed unread kind =>
        rw [hs] at unread
        cases unread
      | asked named answers =>
        cases hs.symm.trans named
        exact answers
    · exact .asked hs

theorem biographyOfDid_eq [Platform] (r : Resolver) (t : Text) (all : Json) :
    r.biographyOfDid (.str t) all =
      match Biography.identifierOf .did (.str t) with
      | .error fault => .done (.error (.identifier fault))
      | .ok s => r.resolve .did s [("did", .str s), ("all", all)] := by
  unfold biographyOfDid didOf Biography.identifierOf
  cases Did.parse (.str t) <;> rfl

theorem biographyOfCredential_eq [Platform] (r : Resolver) (t : Text) :
    r.biographyOfCredential (.str t) =
      match Biography.identifierOf .credential (.str t) with
      | .error fault => .done (.error (.identifier fault))
      | .ok s => r.resolve .credential s [("id", .str s)] := by
  unfold biographyOfCredential credentialOf Biography.identifierOf
  cases DidUrl.parse (.str t) none <;> rfl

/-- **Asking for a history ends as documented exactly when the response is legible**: an object whose error
has no unreadable code and whose result is readable.  So it is for DIDs and for credentials. -/
theorem biographies_settle_iff [Platform] (r : Resolver) (t : Text) (w : Surroundings) (start : Progress) :
    (∀ all : Json,
      (Settles r .did (fun s => [("did", .str s), ("all", all)]) t
          ((r.biographyOfDid (.str t) all).transcript w start)
          ((r.biographyOfDid (.str t) all).run w start).1 ↔
        Ledger.Legible (Readable .did) ((r.biographyOfDid (.str t) all).transcript w start))) ∧
    (Settles r .credential (fun s => [("id", .str s)]) t
        ((r.biographyOfCredential (.str t)).transcript w start)
        ((r.biographyOfCredential (.str t)).run w start).1 ↔
      Ledger.Legible (Readable .credential) ((r.biographyOfCredential (.str t)).transcript w start)) :=
  ⟨fun all => settles_iff (r.biographyOfDid_eq t all) w start,
    settles_iff (r.biographyOfCredential_eq t) w start⟩

/-- A response with a history whose first transaction carries this text for a document. -/
def carrying (document : List Char) : Json :=
  .obj [("result", .obj [("did", .str "did:example:123"), ("status", .int 0),
    ("transaction", .arr [.obj [
      ("txid", .str (.ofChars (List.replicate 64 '0'))),
      ("timestamp", .str "2024-03-01T10:00:00Z"),
      ("operation", .obj [
        ("header", .obj [("specification", .str "elastos/did/1.0"), ("operation", .str "create")]),
        ("payload", .str (.ofChars (Text.Base64.encode (Text.Utf8.encode document)))),
        ("proof", .obj [("verificationMethod", .str "#primary"), ("signature", .str "c2ln")])])]])])]

section

attribute [local instance] Platform.usual

/-- The question for the history of a DID. -/
def sampleQuestion : Dialogue (Except ResolveError Biography) :=
  (⟨"http://resolver"⟩ : Resolver).biographyOfDid (.str "did:example:123") (.bool true)

/-- **An error whose code is no number does not make a documented end.** -/
theorem not_settles_illegible :
    failure? (sampleQuestion.run (Ledger.responding Ledger.codeless) ⟨.fresh, 0, 0, []⟩).1 = some .value ∧
      ¬Settles ⟨"http://resolver"⟩ .did (fun s => [("did", .str s), ("all", .bool true)]) "did:example:123"
        (sampleQuestion.transcript (Ledger.responding Ledger.codeless) ⟨.fresh, 0, 0, []⟩)
        (sampleQuestion.run (Ledger.responding Ledger.codeless) ⟨.fresh, 0, 0, []⟩).1 := by
  have hcode : failure? (sampleQuestion.run (Ledger.responding Ledger.codeless)
      ⟨.fresh, 0, 0, []⟩).1 = some .value := by decide +kernel
  exact ⟨hcode, fun h => absurd (h.failure_mem hcode) (by decide)⟩

end

end Resolver

end DidRegistry
