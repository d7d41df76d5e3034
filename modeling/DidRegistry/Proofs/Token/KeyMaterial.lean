import DidRegistry.Platform.Usual
import DidRegistry.Proofs.Document.Lookup
import DidRegistry.Proofs.Registry.Resolution
import DidRegistry.Proofs.Token.SigningKey

/-!
# Bad key material

A document lists its keys before anybody looks into them: the type of a method, its JWK and its base58
text are any values, and only when the key is asked for are they put together.  What is wrong with them is
then wrong with a value, and the one who asked for a signing key is told that the document is malformed.
One fault is missed: the type of a method is looked at as a text when the key is in base58, though it need
not be one.

## Results

* `PublicKey.blames_ofJwk`, `PublicKey.blames_ofTypedBytes` — what a JWK, and what the bytes of a key of some
  type can be refused for.
* `VerificationMethod.publicKey_eq_typeNotText_iff` — when a method is refused for anything else.
* `KeySource.signingKey_eq` — looking up a signing key as one question.
* `DidDocument.isMistyped_iff_mistypes` — which entries of a document have that fault.
* `KeySource.course_of_lists` — what looking up a key that is listed comes to.
* `KeySource.material_told_iff` — **bad key material is told as such exactly when it is no base58 key of a
  type that is no text**.
-/

set_option autoImplicit false

namespace DidRegistry

/-! ## What is wrong with a value -/

namespace PublicKey

/-- The failures that concern what a value is. -/
def valueFailures : List Kind := [.value, .unencodable]

theorem Error.kind_mem_iff {e : Error} : e.report.kind ∈ valueFailures ↔ e.isAboutValue = true := by
  cases e with
  | base64 e => cases e <;> decide
  | base58 e => cases e <;> decide
  | typeNotText => decide
  | curve | jwk =>
    rw [Error.report, Report.kind_showing rfl]
    exact iff_of_true (by decide) rfl
  | _ => simp [Error.report, Error.isAboutValue, valueFailures, Report.plain, Report.silent]

theorem Error.isAboutValue_iff {e : Error} : e.isAboutValue = true ↔ e ≠ .typeNotText := by
  cases e <;> simp [Error.isAboutValue]

variable {α β : Type} {x : Except Error α}

/-- A step fails, if it does, because of what a value is. -/
def Blames (x : Except Error α) : Prop := ∀ e, x = .error e → e.isAboutValue = true

theorem blames_ok (a : α) : Blames (.ok a) := by
  intro e h
  cases h

theorem blames_error {e : Error} (h : e.isAboutValue = true) : Blames (.error e : Except Error α) := by
  intro e' he
  cases he
  exact h

theorem Blames.map (h : Blames x) (f : α → β) : Blames (x.map f) := by
  intro e he
  exact h e (map_eq_error.mp he)

theorem Blames.bind (h : Blames x) {f : α → Except Error β} (hf : ∀ a, Blames (f a)) : Blames (x >>= f) := by
  intro e he
  rcases bind_eq_error.mp he with he | ⟨a, -, he⟩
  · exact h e he
  · exact hf a e he

theorem blames_memberBytes (jwk : Json) (name : String) : Blames (memberBytes jwk name) := by
  unfold memberBytes
  dsimp only
  split
  · cases Text.Base64.decode _ with
    | ok bytes => exact blames_ok bytes
    | error e => exact blames_error rfl
  · exact blames_error rfl

theorem blames_memberNumber (jwk : Json) (name : String) : Blames (memberNumber jwk name) :=
  (blames_memberBytes jwk name).map _

theorem blames_ofRsa (modulus exponent : Nat) : Blames (ofRsa modulus exponent) := by
  unfold ofRsa
  split
  · exact blames_ok _
  · exact blames_error rfl

theorem blames_ofPoint (curve : Curve) (x y : Nat) : Blames (ofPoint curve x y) := by
  unfold ofPoint
  dsimp only
  split
  · exact blames_ok _
  · exact blames_error rfl

theorem blames_ofEd25519 (bytes : List UInt8) : Blames (ofEd25519 bytes) := by
  unfold ofEd25519
  split
  · exact blames_ok _
  · exact blames_error rfl

theorem blames_ofJwkPoint (jwk : Json) : Blames (ofJwkPoint jwk) := by
  unfold ofJwkPoint
  dsimp only
  split
  · exact blames_error rfl
  · apply (blames_memberNumber jwk "x").bind
    intro x
    apply (blames_memberNumber jwk "y").bind
    intro y
    exact blames_ofPoint _ x y

/-- Whatever is read as a JWK, what is wrong with it is wrong with a value. -/
theorem blames_ofJwk (jwk : Json) : Blames (ofJwk jwk) := by
  unfold ofJwk
  split
  · dsimp only
    split
    · apply (blames_memberNumber _ "e").bind
      intro exponent
      apply (blames_memberNumber _ "n").bind
      intro modulus
      exact blames_ofRsa modulus exponent
    split
    · exact blames_ofJwkPoint _
    split
    · exact (blames_memberBytes _ "x").bind blames_ofEd25519
    · exact blames_error rfl
  · exact blames_error rfl

theorem blames_ofEncodedPoint (curve : Curve) (bytes : List UInt8) : Blames (ofEncodedPoint curve bytes) := by
  unfold ofEncodedPoint
  split
  · dsimp only
    split
    · exact blames_ofPoint _ _ _
    split
    · split
      · exact blames_ok _
      · exact blames_error rfl
    · exact blames_error rfl
  · exact blames_error rfl

theorem blames_ofTypedBytes (type : Text) (bytes : List UInt8) : Blames (ofTypedBytes type bytes) := by
  unfold ofTypedBytes
  split
  · exact blames_ofEd25519 bytes
  split
  · exact blames_ofEncodedPoint _ bytes
  · exact blames_error rfl

theorem Blames.ne_typeNotText (h : Blames x) : x ≠ .error .typeNotText := by
  intro hx
  cases h _ hx

theorem ofBase58_eq_typeNotText_iff {type value : Json} :
    ofBase58 type value = .error .typeNotText ↔
      type.isString = false ∧
        ∃ t bytes, value = .str t ∧ t.isEmpty = false ∧ Text.Base58.decode t.chars = .ok bytes := by
  cases value with
  | str t =>
    cases hempty : t.isEmpty with
    | true => simp [ofBase58, Json.isString, Json.isPresent, hempty]
    | false =>
      have hpresent : (Json.str t).isPresent = true := by simp [Json.isPresent, hempty]
      cases hd : Text.Base58.decode t.chars with
      | error e =>
        have hread : ofBase58 type (.str t) = .error (.base58 e) := by
          simp [ofBase58, hpresent, Json.isString, Json.text, hd]
        simp [hread, hd]
      | ok bytes =>
        have hread : ofBase58 type (.str t) =
            if type.isString then ofTypedBytes type.text bytes else .error .typeNotText := by
          simp [ofBase58, hpresent, Json.isString, Json.text, hd]
        have htyped := (blames_ofTypedBytes type.text bytes).ne_typeNotText
        rw [hread]
        cases type.isString <;> simp [hempty, hd, htyped]
  | _ => simp [ofBase58, Json.isString]

end PublicKey

/-! ## Verification methods -/

namespace VerificationMethod

open PublicKey

/-- The method has a key in base58 that has bytes, and a type that is no text. -/
structure IsMistyped (m : VerificationMethod) : Prop where
  base58Only : m.jwk = .null
  decodes : ∃ t bytes, m.base58 = .str t ∧ t.isEmpty = false ∧ Text.Base58.decode t.chars = .ok bytes
  untyped : m.type.isString = false

/-- The type is missed exactly where a method is mistyped. -/
theorem publicKey_eq_typeNotText_iff {m : VerificationMethod} :
    m.publicKey = .error .typeNotText ↔ m.IsMistyped := by
  constructor
  · intro h
    unfold publicKey at h
    split at h
    · cases h
    · rename_i hjwk _
      obtain ⟨huntyped, hdecodes⟩ := ofBase58_eq_typeNotText_iff.mp h
      exact ⟨hjwk, hdecodes, huntyped⟩
    · exact absurd h (blames_ofJwk _).ne_typeNotText
  · rintro ⟨hjwk, ⟨t, bytes, hbase58, hempty, hd⟩, huntyped⟩
    have hread : m.publicKey = ofBase58 m.type m.base58 := by
      simp only [publicKey, hjwk, hbase58]
    rw [hread]
    exact ofBase58_eq_typeNotText_iff.mpr ⟨huntyped, t, bytes, hbase58, hempty, hd⟩

/-- A method gives a key, or it is told what is wrong with a value in it. -/
def IsTold (m : VerificationMethod) : Prop :=
  (∃ k, m.publicKey = .ok k) ∨ ∃ e, m.publicKey = .error e ∧ e.report.kind ∈ valueFailures

theorem isTold_iff {m : VerificationMethod} : m.IsTold ↔ ¬m.IsMistyped := by
  rw [← publicKey_eq_typeNotText_iff]
  unfold IsTold
  cases hk : m.publicKey with
  | ok k => simp
  | error e => simp [Error.kind_mem_iff, Error.isAboutValue_iff]

end VerificationMethod

/-! ## Documents -/

namespace DidDocument

/-- The entry of a document has a key in base58 that has bytes, and a type that is no text. -/
structure Mistypes (entry : Json) : Prop where
  base58Only : (entry.get? "publicKeyJwk").getD .null = .null
  decodes : ∃ t bytes, entry.get? "publicKeyBase58" = some (.str t) ∧ t.isEmpty = false ∧
    Text.Base58.decode t.chars = .ok bytes
  untyped : ∃ type, entry.get? "type" = some type ∧ type.isString = false

variable {subject : Did} {entry : Json} {m : VerificationMethod}

theorem isMistyped_iff_mistypes (h : methodOf subject entry = .ok m) : m.IsMistyped ↔ Mistypes entry := by
  obtain ⟨-, -, htype, hbase58, hjwk⟩ := methodOf_eq_ok h
  constructor
  · rintro ⟨honly, ⟨t, bytes, ht, hempty, hdecode⟩, huntyped⟩
    refine ⟨hjwk ▸ honly, ⟨t, bytes, ?_, hempty, hdecode⟩, ?_⟩
    · rw [hbase58] at ht
      cases hmember : entry.get? "publicKeyBase58" with
      | none => simp [hmember] at ht
      | some v => simpa [hmember] using ht
    · rw [htype] at huntyped
      cases hmember : entry.get? "type" with
      | none => simp [hmember, Json.isString] at huntyped
      | some v => exact ⟨v, rfl, by simpa [hmember] using huntyped⟩
  · rintro ⟨honly, ⟨t, bytes, ht, hempty, hdecode⟩, type, hmember, huntyped⟩
    refine ⟨hjwk.trans honly, ⟨t, bytes, ?_, hempty, hdecode⟩, ?_⟩
    · simp [hbase58, ht]
    · simpa [htype, hmember] using huntyped

theorem isPresent_of_method? {d : DidDocument} {reference : Text}
    (h : d.method? reference = .ok (some m)) : (Json.str reference).isPresent = true := by
  obtain ⟨points⟩ := reference
  cases points with
  | nil =>
    -- a mark alone has no fragment
    have hnone : d.method? ⟨[]⟩ = .error (.noFragment (.str "#")) := rfl
    cases hnone.symm.trans h
  | cons p ps => rfl

end DidDocument

/-! ## Signing keys -/

theorem Did.isPresent_of_parse {v : Json} {did : Did} (h : Did.parse v = .ok did) : v.isPresent = true := by
  obtain ⟨t, rfl, -⟩ := Did.parse_eq_ok h
  have howner : Variety.did.ownerOf t = .ok did := h
  exact Biography.isPresent_of_ownerOf howner

namespace KeySource

open Dialogue

variable {s : KeySource} {issuer key : Json} {m : VerificationMethod} {r : Resolver} {did : Did}
  {memory memory' : Memory} {hs : List Happening}

/-- The key that the response to the question for its issuer gives. -/
def keyAnswered [Platform] (did : Did) (key : Json) (response : Except Breakdown Json) :
    Except SigningKeyError PublicKey :=
  match (Resolver.read .did did.toText response).bind fun b => b.document.mapError .biography with
  | .error e => .error (.resolve did e)
  | .ok document => keyIn did key document

/-- **Looking up a signing key is asking one question**, for the history of the issuer. -/
theorem signingKey_eq [Platform] (hp : s.provided = none) (hr : s.resolver = some r)
    (hdid : Did.parse issuer = .ok did)
    (hkey : key.isPresent = true) :
    s.signingKey issuer key =
      (Dialogue.call (r.didQuestion did.toText)).bind fun response =>
        .done (keyAnswered did key response) := by
  have hissuer := Did.isPresent_of_parse hdid
  simp only [signingKey, hkey, hp, hr, resolved, hissuer, hdid, Resolver.documentOf, Resolver.biographyOfDid,
    Resolver.didOf_toText hdid, Bool.not_true, Bool.false_eq_true, if_false]
  apply congrArg (Dialogue.ask _)
  funext response
  show Dialogue.bind (.done ((Resolver.read .did did.toText response).bind
    fun b => b.document.mapError .biography)) _ = .done (keyAnswered did key response)
  unfold keyAnswered
  cases (Resolver.read .did did.toText response).bind fun b => b.document.mapError .biography <;> rfl

/-- In what the resolver answered, the DID that the issuer is has a valid history, and in its document the key
names the verification method `m`. -/
inductive Lists [Platform] (s : KeySource) (did : Did) (issuer key : Json) (m : VerificationMethod) :
    List Happening → Prop where
  | intro {r : Resolver} {reference : Text} {response : Except Breakdown Json} {b : Biography}
    {d : DidDocument}
      (resolver : s.resolver = some r)
      (issued : Did.parse issuer = .ok did)
      (named : key = .str reference)
      (answer : Resolver.read .did did.toText response = .ok b)
      (valid : b.status = .valid)
      (document : b.document = .ok (some d))
      (listed : d.method? reference = .ok (some m)) :
      Lists s did issuer key m [.answered (r.didQuestion did.toText) response]

theorem isDeactivated_of_valid [Platform] {b : Biography} {d : DidDocument} (hvalid : b.status = .valid)
    (hd : b.document = .ok (some d)) : d.isDeactivated = false := by
  have hfound : b.status ≠ .notFound := by simp [hvalid]
  obtain ⟨x, -, hx⟩ := (Biography.document_eq_some_iff hfound).mp hd
  obtain ⟨bytes, ms, -, -, hj⟩ := DidDocument.ofPayload_eq_ok.mp hx
  simp [(DidDocument.ofJson_eq_ok hj).2.2.2, hvalid]

theorem keyIn_of_listed {d : DidDocument} {reference : Text} (hactive : d.isDeactivated = false)
    (hm : d.method? reference = .ok (some m)) :
    keyIn did (.str reference) (some d) = m.publicKey.mapError (.unusable did (.str reference) m.id) := by
  have hmethod : d.methodOfJson? (.str reference) = .ok (some m) := by
    simp [DidDocument.methodOfJson?, Json.isString, Json.text, hm, Except.mapError]
  simp only [keyIn, hactive, hmethod, Bool.false_eq_true, if_false]

/-- When the key is listed, it is looked up by putting it together from its verification method. -/
theorem course_of_lists [Platform] {e : Ending (Except SigningKeyError PublicKey)} (hp : s.provided = none)
    (hlists : s.Lists did issuer key m hs) (h : (s.signingKey issuer key).Course memory hs e memory') :
    e = .finished (m.publicKey.mapError (.unusable did key m.id)) := by
  cases hlists with
  | @intro r reference response b d hr hdid hkey hread hvalid hd hm =>
    subst hkey
    rw [signingKey_eq hp hr hdid (DidDocument.isPresent_of_method? hm)] at h
    rcases course_call_bind h with ⟨reply, rest, hhs, hcourse⟩ | ⟨hhs, -, -⟩
    · cases hhs
      obtain ⟨-, rfl, -⟩ := course_done hcourse
      have hactive := isDeactivated_of_valid hvalid hd
      have hdocument : (Resolver.read .did did.toText response).bind
          (fun b => b.document.mapError .biography) = .ok (some d) := by
        simp only [hread, Except.bind, hd]
        rfl
      rw [← keyIn_of_listed hactive hm]
      simp only [keyAnswered, hdocument]
    · cases hhs

theorem unusable_kind_iff [Platform] {e : PublicKey.Error} {id : DidUrl} :
    (SigningKeyError.unusable did key id e).report.kind = .malformedDocument ↔ e ≠ .typeNotText := by
  rw [← PublicKey.Error.isAboutValue_iff]
  cases he : e.isAboutValue with
  | true => simp [SigningKeyError.report, he, Report.because, Report.coded]
  | false =>
    have huntyped : e = .typeNotText := by
      by_contra hne
      simp [PublicKey.Error.isAboutValue_iff.mpr hne] at he
    subst huntyped
    simp [SigningKeyError.report, PublicKey.Error.isAboutValue, PublicKey.Error.report, Report.silent]

/-- **Bad key material is told as such exactly when it is no base58 key of a type that is no text.**
Every verification method of a document gives a key, or it is told which value is wrong, unless its entry
has such a key.  So when the document of a valid DID lists the signing key, looking it up gives a key or
tells that the document is malformed, with the same exception. -/
theorem material_told_iff [Platform] (v : Json) (isDeactivated : Bool) (s : KeySource) (did : Did)
    (issuer key : Json)
    (m : VerificationMethod) (w : Surroundings) (start : Progress) :
    (∀ d, DidDocument.ofJson v isDeactivated = .ok d →
      ∃ entries, DidDocument.entriesOf v = .ok entries ∧
        List.Forall₂ (fun entry m => (m.IsTold ↔ ¬m.IsMistyped) ∧ (m.IsMistyped ↔ DidDocument.Mistypes entry))
          entries d.methods) ∧
    (s.provided = none → s.Lists did issuer key m ((s.signingKey issuer key).transcript w start) →
      (((∃ k, ((s.signingKey issuer key).run w start).1 = .finished (.ok k)) ∨
        ∃ e, ((s.signingKey issuer key).run w start).1 = .finished (.error e) ∧
          e.report.kind = .malformedDocument) ↔ ¬m.IsMistyped)) := by
  constructor
  · intro d h
    obtain ⟨-, ⟨entries, hentries, hmethods⟩, -, -⟩ := DidDocument.ofJson_eq_ok h
    refine ⟨entries, hentries, (DidDocument.forall₂_methodsOf hmethods).imp ?_⟩
    intro entry m hm
    exact ⟨VerificationMethod.isTold_iff, DidDocument.isMistyped_iff_mistypes hm⟩
  · intro hp hlists
    rw [course_of_lists hp hlists (run_course w _ start), ← VerificationMethod.publicKey_eq_typeNotText_iff]
    cases hk : m.publicKey with
    | ok k => simp [Except.mapError]
    | error e => simp [Except.mapError, unusable_kind_iff]

/-- The lookup of the signing key `primary` of a DID. -/
def lookup [Platform] : Dialogue (Except SigningKeyError PublicKey) :=
  sample.signingKey (.str "did:example:123") (.str "primary")

/-- The verification method that it finds when the current document of the DID is the one with this text. -/
def found? [Platform] (document : List Char) : Option VerificationMethod :=
  (Resolver.read .did "did:example:123" (.ok (Resolver.carrying document))).toOption.bind fun b =>
    if b.status = .valid then
      b.document.toOption.bind fun d => d.bind fun d => (d.method? "primary").toOption.bind id
    else none

theorem lists_of_found [Platform] {document : List Char} (h : found? document = some m) :
    sample.Lists ⟨"example", "123"⟩ (.str "did:example:123") (.str "primary") m
      (lookup.transcript (Ledger.responding (Resolver.carrying document)) ⟨.fresh, 0, 0, []⟩) := by
  have hdid : Did.parse (.str "did:example:123") = .ok ⟨"example", "123"⟩ :=
    toOption_eq_some.mp (by decide +kernel)
  obtain ⟨b, hb, h⟩ := Option.bind_eq_some_iff.mp h
  split at h
  · rename_i hvalid
    obtain ⟨x, hx, hcurrent⟩ := Option.bind_eq_some_iff.mp h
    obtain ⟨d, rfl, hmethod⟩ := Option.bind_eq_some_iff.mp hcurrent
    obtain ⟨x, hm, rfl⟩ := Option.bind_eq_some_iff.mp hmethod
    have htranscript : lookup.transcript (Ledger.responding (Resolver.carrying document)) ⟨.fresh, 0, 0, []⟩ =
        [.answered ((⟨"http://localhost:8080"⟩ : Resolver).didQuestion "did:example:123")
          (.ok (Resolver.carrying document))] := by
      rw [lookup, signingKey_eq rfl rfl hdid rfl]
      rfl
    rw [htranscript]
    exact .intro rfl hdid rfl (toOption_eq_some.mp hb) hvalid (toOption_eq_some.mp hx)
      (toOption_eq_some.mp hm)
  · cases h

/-- A document with a verification method whose type is a number, and whose key is given so. -/
def numbered (key : String) : List Char :=
  ("\x7b\"id\":\"did:example:123\",\"publicKey\":[\x7b\"id\":\"#primary\",\"type\":7," ++ key ++
    "\x7d]\x7d").toList

/-- The value of such a document. -/
def numberedJson (key : Text × Json) : Json :=
  .obj [("id", .str "did:example:123"),
    ("publicKey", .arr [.obj [("id", .str "#primary"), ("type", .int 7), key]])]

/-- The verification method in it. -/
def numberedMethod (base58 jwk : Json) : VerificationMethod :=
  ⟨⟨⟨"example", "123"⟩, "primary"⟩, .int 7, ⟨"example", "123"⟩, base58, jwk⟩

/-- The text of a document with a key that has a member that is no text. -/
def numberedJwk : List Char :=
  numbered "\"publicKeyJwk\":\x7b\"kty\":\"OKP\",\"crv\":\"Ed25519\",\"x\":5\x7d"

/-- The key in it. -/
def shortJwk : Json := .obj [("kty", .str "OKP"), ("crv", .str "Ed25519"), ("x", .int 5)]

/-- The text of a document with a key of one byte. -/
def numberedBase58 : List Char := numbered "\"publicKeyBase58\":\"1\""

section

attribute [local instance] Platform.usual

/-- The type of a JWK may be anything: with a number for one of its members, it is told as a malformed
document. -/
theorem material_told_jwk :
    DidDocument.ofJson (numberedJson ("publicKeyJwk", shortJwk)) false =
        .ok ⟨⟨"example", "123"⟩, [numberedMethod .null shortJwk], [], false⟩ ∧
      (numberedMethod .null shortJwk).IsTold ∧
      ∃ e, (lookup.run (Ledger.responding (Resolver.carrying numberedJwk)) ⟨.fresh, 0, 0, []⟩).1 =
        .finished (.error e) ∧ e.report.kind = .malformedDocument := by
  have hread : DidDocument.ofJson (numberedJson ("publicKeyJwk", shortJwk)) false =
      .ok ⟨⟨"example", "123"⟩, [numberedMethod .null shortJwk], [], false⟩ :=
    toOption_eq_some.mp (by decide +kernel)
  have hfound : found? numberedJwk = some (numberedMethod .null shortJwk) := by decide +kernel
  have htyped : ¬(numberedMethod .null shortJwk).IsMistyped := fun hmistyped => nomatch hmistyped.base58Only
  obtain ⟨hdocument, hlookup⟩ := material_told_iff (numberedJson ("publicKeyJwk", shortJwk)) false sample
    ⟨"example", "123"⟩ (.str "did:example:123") (.str "primary") (numberedMethod .null shortJwk)
    (Ledger.responding (Resolver.carrying numberedJwk)) ⟨.fresh, 0, 0, []⟩
  refine ⟨hread, ?_, ?_⟩
  · obtain ⟨entries, -, hmethods⟩ := hdocument _ hread
    cases hmethods with
    | cons hmethod _ => exact hmethod.1.mpr htyped
  · rcases (hlookup rfl (lists_of_found hfound)).mpr htyped with ⟨k, hk⟩ | htold
    · have hnone : (lookup.run (Ledger.responding (Resolver.carrying numberedJwk))
        ⟨.fresh, 0, 0, []⟩).1.value? =
          none := by decide +kernel
      cases hnone.symm.trans (Ending.value?_eq_some.mpr hk)
    · exact htold

/-- **A base58 key whose type is a number is not told as bad key material**: it makes a call on a number that
numbers do not have, and it is this failure that the lookup of the signing key ends with. -/
theorem not_material_told_base58 :
    DidDocument.ofJson (numberedJson ("publicKeyBase58", .str "1")) false =
        .ok ⟨⟨"example", "123"⟩, [numberedMethod (.str "1") .null], [], false⟩ ∧
      ¬(numberedMethod (.str "1") .null).IsTold ∧
      found? numberedBase58 = some (numberedMethod (.str "1") .null) ∧
      ∃ e, (lookup.run (Ledger.responding (Resolver.carrying numberedBase58)) ⟨.fresh, 0, 0, []⟩).1 =
        .finished (.error e) ∧ e.report.kind = .noSuchOperation := by
  have hmistyped : (numberedMethod (.str "1") .null).IsMistyped := {
    base58Only := rfl
    decodes := ⟨_, [0], rfl, rfl, toOption_eq_some.mp (by decide +kernel)⟩
    untyped := rfl }
  have hfound : found? numberedBase58 = some (numberedMethod (.str "1") .null) := by decide +kernel
  refine ⟨toOption_eq_some.mp (by decide +kernel), ?_, hfound, ?_⟩
  · rw [VerificationMethod.isTold_iff]
    exact not_not.mpr hmistyped
  · have hended := course_of_lists rfl (lists_of_found hfound) (Dialogue.run_course _ _ _)
    rw [VerificationMethod.publicKey_eq_typeNotText_iff.mpr hmistyped] at hended
    exact ⟨_, hended, rfl⟩

end

end KeySource

end DidRegistry
