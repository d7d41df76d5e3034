import DidRegistry.Token.Keys
import DidRegistry.Platform.Usual
import DidRegistry.Proofs.Biography.Document
import DidRegistry.Proofs.Registry.Resolver

/-!
# Resolved signing keys

A key that is resolved, and not provided, is bound to the issuer of the token: one question went out,
for the DID that the issuer is, its answer is a well formed history of that DID and no other, the DID is
valid, and the key stands in the latest document, which is about the DID itself.

## Results

* `KeySource.keyIn_eq_ok_iff` — which keys a document gives.
* `KeySource.course_signingKey`, `KeySource.course_bound` — what happens before a key is resolved.
* `KeySource.signingKey_bound` — **a key that is resolved is bound to its issuer**.
-/

set_option autoImplicit false

namespace DidRegistry

variable {did : Did} {reference : Text} {k : PublicKey}

/-- The key that a document names by `reference`, as an absolute DID URL, by `#` and a fragment or by a
bare fragment, is `k`: the key of its first verification method with that identifier. -/
inductive DidDocument.Names (d : DidDocument) (reference : Text) (k : PublicKey) : Prop where
  | intro {wanted : DidUrl} {before after : List VerificationMethod} {method : VerificationMethod}
      (meant : DidUrl.parse (.str (asReference reference)) (some d.subject) = .ok wanted)
      (methods : d.methods = before ++ method :: after)
      (first : ∀ m ∈ before, m.id ≠ wanted)
      (named : method.id = wanted)
      (key : method.publicKey = .ok k)

theorem DidDocument.names_iff {d : DidDocument} :
    d.Names reference k ↔
      ∃ method, d.method? reference = .ok (some method) ∧ method.publicKey = .ok k := by
  unfold method?
  constructor
  · rintro ⟨meant, methods, first, named, key⟩
    refine ⟨_, map_eq_ok.mpr ⟨_, meant, ?_⟩, key⟩
    rw [List.find?_eq_some_iff_append]
    exact ⟨decide_eq_true named, _, _, methods, fun m hm => by simpa using first m hm⟩
  · rintro ⟨method, hm, key⟩
    obtain ⟨wanted, meant, hf⟩ := map_eq_ok.mp hm
    obtain ⟨named, before, after, methods, first⟩ := List.find?_eq_some_iff_append.mp hf
    exact .intro meant methods (fun m hm => by simpa using first m hm) (of_decide_eq_true named) key

/-- The history `b` names the key `k` of the DID `did` by `reference`: its latest document is about that
DID and names the key. -/
inductive Biography.Names [Platform] (b : Biography) (did : Did) (reference : Text) (k : PublicKey) :
    Prop where
  | intro {r : Entry} {d : DidDocument}
      (latest : b.IsLatestDocument r)
      (document : DidDocument.ofPayload (Payload.bytes r.operation.payload) false = .ok d)
      (about : d.subject = did)
      (names : d.Names reference k)

namespace KeySource

open Dialogue

variable {s : KeySource} {issuer key : Json} {m m' : Memory} {hs : List Happening}

/-- A key is resolved from the answer of the resolver to the question for its issuer. -/
inductive Bound [Platform] (s : KeySource) (issuer key : Json) (k : PublicKey) : List Happening → Prop where
  | intro {r : Resolver} {did : Did} {reference : Text} {response : Except Breakdown Json}
      {b : Biography}
      (resolver : s.resolver = some r)
      (issued : Did.parse issuer = .ok did)
      (named : key = .str reference)
      (answer : Resolver.read .did did.toText response = .ok b)
      (variety : b.variety = .did)
      (formed : b.WellFormed)
      (about : b.subject = .str did.toText)
      (valid : b.status = .valid)
      (names : b.Names did reference k) :
      Bound s issuer key k [.answered (r.didQuestion did.toText) response]

/-- A document gives the keys that it names, unless its DID is deactivated. -/
theorem keyIn_eq_ok_iff {d : DidDocument} :
    keyIn did key (some d) = .ok k ↔
      d.isDeactivated = false ∧ ∃ reference, key = .str reference ∧ d.Names reference k := by
  simp only [keyIn, DidDocument.names_iff]
  constructor
  · intro h
    split at h
    · cases h
    · rename_i hd
      refine ⟨by simpa using hd, ?_⟩
      cases key with
      | str reference =>
        simp only [DidDocument.methodOfJson?, Json.isString, Json.text, if_true] at h
        split at h
        · cases h
        · cases h
        · rename_i method hm
          exact ⟨reference, rfl, method, mapError_eq_ok.mp hm, mapError_eq_ok.mp h⟩
      | _ => cases h
  · rintro ⟨hd, reference, rfl, method, hm, hk⟩
    rw [if_neg (by simp [hd])]
    simp only [DidDocument.methodOfJson?, Json.isString, Json.text, if_true, hm]
    exact mapError_eq_ok.mpr hk

/-- What happens before a key is resolved. -/
theorem course_signingKey [Platform] (hp : s.provided = none)
    (h : (s.signingKey issuer key).Course m hs (.finished (.ok k)) m') :
    ∃ r did response b document, s.resolver = some r ∧ Did.parse issuer = .ok did ∧
      hs = [.answered (r.didQuestion did.toText) response] ∧
      Resolver.read .did did.toText response = .ok b ∧ b.document = .ok document ∧
      keyIn did key document = .ok k := by
  unfold signingKey at h
  split at h
  · cases (course_done h).2.1
  rw [hp] at h
  split at h
  · rename_i keys _ hkeys
    cases hkeys
  · cases (course_done h).2.1
  rename_i r _ hr
  unfold resolved at h
  split at h
  · cases (course_done h).2.1
  split at h
  · cases (course_done h).2.1
  rename_i did hdid
  rcases course_bind h with ⟨found, hs₁, hs₂, m₁, rfl, h₁, h₂⟩ | ⟨-, he⟩
  · rcases Resolver.course_documentOf hdid h₁ with ⟨response, rfl, he⟩ | ⟨-, he⟩
    · cases he
      split at h₂
      · cases (course_done h₂).2.1
      · rename_i document hfound
        obtain ⟨rfl, he, -⟩ := course_done h₂
        obtain ⟨b, hb, hdoc⟩ := bind_eq_ok.mp hfound
        exact ⟨r, did, response, b, document, hr, hdid, List.append_nil _, hb, mapError_eq_ok.mp hdoc,
          (Ending.finished.inj he).symm⟩
    · cases he
  · cases he

/-- A key that is resolved is bound to its issuer: only what the resolver was asked about the issuer itself,
and only a document of the issuer that is in force, gives the key. -/
theorem course_bound [Platform] (hp : s.provided = none)
    (h : (s.signingKey issuer key).Course m hs (.finished (.ok k)) m') : s.Bound issuer key k hs := by
  obtain ⟨r, did, response, b, document, hr, hd, ht, hread, hdoc, hk⟩ := course_signingKey hp h
  obtain ⟨hv, hcheck, hs⟩ := Resolver.read_eq_ok hread
  have hw := Biography.check_eq_ok_iff.mp hcheck
  cases document with
  | none => cases hk
  | some d =>
    obtain ⟨hactive, reference, rfl, names⟩ := keyIn_eq_ok_iff.mp hk
    have hfound : b.status ≠ .notFound := fun hn => by
      rw [Biography.document_of_notFound hn] at hdoc
      cases hdoc
    obtain ⟨x, latest, hx⟩ := (Biography.document_eq_some_iff hfound).mp hdoc
    obtain ⟨bytes, ms, -, -, hj⟩ := DidDocument.ofPayload_eq_ok.mp hx
    have hended : decide (b.status = .ended) = false :=
      (DidDocument.ofJson_eq_ok hj).2.2.2.symm.trans hactive
    rw [hended] at hx
    have hvalid : b.status = .valid := by
      cases hb : b.status with
      | valid => rfl
      | ended => exact absurd hb (of_decide_eq_false hended)
      | notFound => exact absurd hb hfound
    rw [ht]
    exact .intro hr hd rfl hread hv hw hs hvalid
      ⟨latest, hx, hw.document_subject hv hs (Did.parse_toText hd) latest hx, names⟩

/-- **A key that is resolved is bound to its issuer**, whatever the resolver answers. -/
theorem signingKey_bound [Platform] (hp : s.provided = none) (issuer key : Json) (w : Surroundings)
    (start : Progress) (h : ((s.signingKey issuer key).run w start).1 = .finished (.ok k)) :
    s.Bound issuer key k ((s.signingKey issuer key).transcript w start) := by
  have hc := run_course w (s.signingKey issuer key) start
  rw [h] at hc
  exact course_bound hp hc

/-- The text of a document with one key. -/
def sampleDocument : List Char :=
  "\x7b\"id\":\"did:elastos:abc\",\"publicKey\":[\x7b\"id\":\"#primary\",".toList ++
    "\"publicKeyJwk\":\x7b\"kty\":\"OKP\",\"crv\":\"Ed25519\",\"x\":\"".toList ++
    List.replicate 43 'A' ++ "\"\x7d\x7d]\x7d".toList

/-- An answer with a history that creates the document. -/
def sampleAnswer : Json :=
  .obj [("result", .obj [("did", .str "did:elastos:abc"), ("status", .int 0),
    ("transaction", .arr [.obj [
      ("txid", .str (.ofChars (List.replicate 64 '0'))),
      ("timestamp", .str "2024-03-01T10:00:00Z"),
      ("operation", .obj [
        ("header", .obj [("specification", .str "elastos/did/1.0"), ("operation", .str "create")]),
        ("payload", .str (.ofChars (Text.Base64.encode (Text.Utf8.encode sampleDocument)))),
        ("proof", .obj [("verificationMethod", .str "#primary"), ("signature", .str "c2ln")])])]])])]

/-- Surroundings in which every request is answered so. -/
def answered : Surroundings where
  respond _
    | .post _ _ _ => .ok sampleAnswer
    | .send _ => .error .shapeless
    | .receipt _ => .error .shapeless
    | .transaction _ => .error .shapeless
    | .height => .error .shapeless

/-- Keys that are resolved. -/
def sample : KeySource := ⟨some ⟨"http://localhost:8080"⟩, none⟩

section

attribute [local instance] Platform.usual

theorem signingKey_bound_sample :
    sample.provided = none ∧
      ((sample.signingKey (.str "did:elastos:abc") (.str "primary")).run answered ⟨.fresh, 0, 0, []⟩).1 =
        .finished (.ok (.ed25519 (List.replicate 32 0))) ∧
      sample.Bound (.str "did:elastos:abc") (.str "primary") (.ed25519 (List.replicate 32 0))
        ((sample.signingKey (.str "did:elastos:abc") (.str "primary")).transcript answered
          ⟨.fresh, 0, 0, []⟩) := by
  have h : ((sample.signingKey (.str "did:elastos:abc") (.str "primary")).run answered
      ⟨.fresh, 0, 0, []⟩).1 = .finished (.ok (.ed25519 (List.replicate 32 0))) :=
    Ending.value?_eq_some.mp (by decide +kernel)
  exact ⟨rfl, h, signingKey_bound rfl _ _ answered ⟨.fresh, 0, 0, []⟩ h⟩

end

end KeySource

end DidRegistry
