import DidRegistry.Registry.Resolver
import DidRegistry.Token.Policy
import DidRegistry.Proofs.Biography.WellFormed
import DidRegistry.Proofs.Ledger.Submission

/-!
# Asking a resolver

A question to a resolver is one request, or none when it names no subject.  What is handed on is well
formed and about the subject of the question.

## Results

* `Resolver.read_eq_ok` — **a response is read as a biography only when it is well formed, of the kind
  that was asked for, and about exactly the subject that was asked for**.
* `Resolver.course_biographyOfDid`, `Resolver.course_documentOf` — the courses of asking for the history
  of a DID and for its current document.
* `Resolver.asks_documentOf`, `KeySource.asks_signingKey`, `TokenPolicy.asks_verify` — resolving, looking up a
  key and verifying a token ask for nothing but histories.
-/

set_option autoImplicit false

namespace DidRegistry

/-! ## What is handed on -/

namespace Resolver

open Dialogue

variable {m m' : Memory} {hs : List Happening} {r : Resolver}

/-- **A response is read as a biography only when it is well formed, of the kind that was asked for, and
about exactly the subject that was asked for.** -/
theorem read_eq_ok [Platform] {variety : Variety} {subject : Text} {response : Except Breakdown Json}
    {b : Biography}
    (h : read variety subject response = .ok b) :
    b.variety = variety ∧ b.check = .ok () ∧ b.subject = .str subject := by
  unfold read at h
  split at h
  · cases h
  · split at h
    · cases h
    · cases h
    · have ha := mapError_eq_ok.mp h
      unfold Biography.answering at ha
      split at ha
      · cases ha
      · rename_i c hc
        split at ha
        · rename_i hs
          cases ha
          obtain ⟨hv, hk⟩ := Biography.ofJson_eq_ok hc
          exact ⟨hv, hk, hs⟩
        · cases ha

/-! ## Courses -/

/-- The question for a history. -/
def question (r : Resolver) (variety : Variety) (parameters : Json.Members) : Call :=
  .post r.url (method variety) [.obj parameters]

theorem method_ne_submission (variety : Variety) : method variety ≠ Call.submissionMethod := by
  cases variety <;> decide

theorem question_isSubmission (variety : Variety) (parameters : Json.Members) :
    (r.question variety parameters).isSubmission = false := by
  simp [question, Call.isSubmission, method_ne_submission]

theorem course_resolve [Platform] {variety : Variety} {subject : Text} {parameters : Json.Members}
    {e : Ending (Except ResolveError Biography)}
    (h : (r.resolve variety subject parameters).Course m hs e m') :
    (∃ response, hs = [.answered (r.question variety parameters) response] ∧
        e = .finished (read variety subject response)) ∨
      (hs = [.abandoned (r.question variety parameters)] ∧ e = .cancelled) := by
  rcases course_call_bind h with ⟨response, rest, rfl, hr⟩ | ⟨rfl, rfl, -⟩
  · obtain ⟨rfl, rfl, -⟩ := course_done hr
    exact .inl ⟨response, rfl, rfl⟩
  · exact .inr ⟨rfl, rfl⟩

/-- The question for the history of a DID, with all transactions. -/
def didQuestion (r : Resolver) (did : Text) : Call :=
  r.question .did [("did", .str did), ("all", .bool true)]

/-- The courses of asking for the history of a DID. -/
theorem course_biographyOfDid [Platform] {subject : Json} {e : Ending (Except ResolveError Biography)}
    (h : (r.biographyOfDid subject (.bool true)).Course m hs e m') :
    (∃ fault, didOf subject = .error fault ∧ hs = [] ∧ e = .finished (.error (.identifier fault))) ∨
      ∃ did, didOf subject = .ok did ∧
        ((∃ response, hs = [.answered (r.didQuestion did) response] ∧
            e = .finished (read .did did response)) ∨
          (hs = [.abandoned (r.didQuestion did)] ∧ e = .cancelled)) := by
  unfold biographyOfDid at h
  split at h
  · rename_i fault hd
    obtain ⟨rfl, rfl, -⟩ := course_done h
    exact .inl ⟨fault, hd, rfl, rfl⟩
  · rename_i did hd
    exact .inr ⟨did, hd, course_resolve h⟩

theorem didOf_toText {v : Json} {did : Did} (h : Did.parse v = .ok did) :
    didOf (.str did.toText) = .ok (Text.ofString did.toText) := by
  unfold didOf
  rw [Did.parse_toText h]
  rfl

/-- The courses of asking for the current document of a DID that was read. -/
theorem course_documentOf [Platform] {v : Json} {did : Did} (hd : Did.parse v = .ok did)
    {e : Ending (Except ResolveError (Option DidDocument))}
    (h : (r.documentOf (.str did.toText)).Course m hs e m') :
    (∃ response, hs = [.answered (r.didQuestion did.toText) response] ∧
        e = .finished ((read .did did.toText response).bind
          fun b => b.document.mapError ResolveError.biography)) ∨
      (hs = [.abandoned (r.didQuestion did.toText)] ∧ e = .cancelled) := by
  rcases course_bind h with ⟨answer, hs₁, hs₂, m₁, rfl, h₁, h₂⟩ | ⟨h₁, rfl⟩
  · obtain ⟨rfl, rfl, -⟩ := course_done h₂
    rcases course_biographyOfDid h₁ with ⟨fault, hf, -⟩ | ⟨subject, hs, ⟨response, rfl, ha⟩ | ⟨-, ha⟩⟩
    · rw [didOf_toText hd] at hf
      cases hf
    · rw [didOf_toText hd] at hs
      cases hs
      cases ha
      exact .inl ⟨response, List.append_nil _, rfl⟩
    · cases ha
  · rcases course_biographyOfDid h₁ with ⟨fault, -, -, ha⟩ | ⟨subject, hs, ⟨response, -, ha⟩ | ⟨rfl, -⟩⟩
    · cases ha
    · cases ha
    · rw [didOf_toText hd] at hs
      cases hs
      exact .inr ⟨rfl, rfl⟩

/-! ## What is asked for -/

/-- The questions of all resolvers are among what `P` allows. -/
def Allows (P : Ask → Prop) : Prop :=
  ∀ (r : Resolver) (variety : Variety) (parameters : Json.Members), P (.call (r.question variety parameters))

variable {P : Ask → Prop}

theorem asks_resolve [Platform] (hP : Allows P) (variety : Variety) (subject : Text)
    (parameters : Json.Members) :
    (r.resolve variety subject parameters).Asks P :=
  (Asks.call (hP r variety parameters)).bind fun _ => .done _

theorem asks_biographyOfDid [Platform] (hP : Allows P) (did all : Json) :
    (r.biographyOfDid did all).Asks P := by
  unfold biographyOfDid
  split
  · exact .done _
  · exact asks_resolve hP _ _ _

theorem asks_biographyOfCredential [Platform] (hP : Allows P) (credential : Json) :
    (r.biographyOfCredential credential).Asks P := by
  unfold biographyOfCredential
  split
  · exact .done _
  · exact asks_resolve hP _ _ _

theorem asks_documentOf [Platform] (hP : Allows P) (did : Json) : (r.documentOf did).Asks P :=
  (asks_biographyOfDid hP did _).bind fun _ => .done _

theorem allows_inquiry : Allows fun a => a.isInquiry = true := fun r variety parameters => by
  simp [Ask.isInquiry, Ask.isQuiet, question_isSubmission]

end Resolver

/-! ## Keys and tokens -/

open Dialogue

variable {P : Ask → Prop}

theorem KeySource.asks_signingKey [Platform] (hP : Resolver.Allows P) (s : KeySource) (issuer key : Json) :
    (s.signingKey issuer key).Asks P := by
  unfold signingKey
  split
  · exact .done _
  · split
    · exact .done _
    · exact .done _
    · unfold resolved
      split
      · exact .done _
      · split
        · exact .done _
        · refine (Resolver.asks_documentOf hP _).bind fun d => ?_
          split <;> exact .done _

theorem TokenPolicy.asks_verify [Platform] (hP : Resolver.Allows P) (v : TokenPolicy) (now : Number)
    (token : Json) :
    (v.verify now token).Asks P := by
  unfold verify
  split
  · exact .done _
  · refine (v.keys.asks_signingKey hP _ _).bind fun k => ?_
    split <;> exact .done _

end DidRegistry
