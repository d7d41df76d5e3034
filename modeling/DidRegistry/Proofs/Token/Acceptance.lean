import DidRegistry.Token.Policy
import DidRegistry.Platform.Usual
import DidRegistry.Proofs.Registry.Resolution
import DidRegistry.Proofs.Token.SigningKey

/-!
# Accepted tokens

The key of a token is chosen by a header and by claims that nobody has vouched for yet, and only under that
key is the signature checked.  What is accepted is sound all the same, and it takes little from the library
that decodes tokens: whatever way it decodes a token, it gives the object in its payload, and it gives it
under a key only if the token is signed with the key.  So the library is a parameter here.

## Results

* `TokenPolicy.verify_eq` — verifying a token is verifying it by a library, the one that decodes JWS.
* `TokenLibrary.reliable_jws` — that library can be relied on.
* `TokenPolicy.run_verifyBy` — what came before a token was accepted.
* `TokenPolicy.verify_sound` — **a token that is accepted is signed, by a configured algorithm, with the key
  that was found for its issuer and its key identifier**, by whatever library that can be relied on.
-/

set_option autoImplicit false

namespace DidRegistry

/-! ## Libraries -/

/-- What is used of a library that decodes tokens. -/
structure TokenLibrary where
  /-- The header of a token that nobody has vouched for. -/
  header : Json → Except TokenError Json.Members
  /-- The claims of a token that nobody has vouched for. -/
  claims : Json → Except TokenError Json.Members
  /-- The claims of a token that is signed with a key by one of the algorithms and meets the rules. -/
  decode : Json → PublicKey → List Algorithm → ClaimRules → Except TokenFault Json.Members

namespace TokenLibrary

variable {payload : Json → Option Json.Members} {Signed : Json → PublicKey → Algorithm → Prop}

/-- What a library is relied on for: whatever way it decodes a token, it gives the object in the payload, and
under a key only if the token is signed with that key by one of the algorithms. -/
structure Reliable (lib : TokenLibrary) (payload : Json → Option Json.Members)
    (Signed : Json → PublicKey → Algorithm → Prop) : Prop where
  claims : ∀ token ms, lib.claims token = .ok ms → payload token = some ms
  decode : ∀ token key algorithms rules ms,
    lib.decode token key algorithms rules = .ok ms → payload token = some ms
  signed : ∀ token key algorithms rules ms,
    lib.decode token key algorithms rules = .ok ms → ∃ a ∈ algorithms, Signed token key a

end TokenLibrary

namespace TokenPolicy

/-- The algorithm, the key identifier and the issuer of a token. -/
def readBy (lib : TokenLibrary) (v : TokenPolicy) (token : Json) :
    Except TokenError (Algorithm × Option Text × Option Text) := do
  let header ← lib.header token
  let claims ← lib.claims token
  let algorithm ← algorithmIn v.algorithms ((Json.Members.get? header "alg").getD .null)
  let keyId ← textMember header "kid"
  let issuer ← textMember claims "iss"
  return (algorithm, keyId, issuer)

/-- The claims of a token whose key is known, if the library decodes it and they have the required values. -/
def acceptBy (lib : TokenLibrary) (v : TokenPolicy) (now : Number) (token : Json) (algorithm : Algorithm)
    (keyId : Option Text) (key : PublicKey) : Except TokenError Json.Members := do
  if (sorted? (v.required.map (·.1))).isNone then throw .unordered
  let claims ← (lib.decode token key [algorithm] (v.rules now)).mapError (.rejected (Json.ofText? keyId))
  checkRequired claims v.required
  return claims

/-- The claims of a token that is accepted, decoded by a library. -/
def verifyBy [Platform] (lib : TokenLibrary) (v : TokenPolicy) (now : Number) (token : Json) :
    Dialogue (Except TokenError Json.Members) := do
  match v.readBy lib token with
  | .error e => return .error e
  | .ok (algorithm, keyId, issuer) =>
    match ← v.keys.signingKey (.ofText? issuer) (.ofText? keyId) with
    | .error e => return .error (.key e)
    | .ok key => return v.acceptBy lib now token algorithm keyId key

end TokenPolicy

theorem algorithmIn_eq_ok {accepted : List Algorithm} {name : Json} {a : Algorithm}
    (h : algorithmIn accepted name = .ok a) : a ∈ accepted ∧ name = .str a.name := by
  unfold algorithmIn at h
  split at h
  · rename_i hfind
    cases h
    exact ⟨List.mem_of_find?_eq_some hfind, by simpa using List.find?_some hfind⟩
  · cases h

theorem algorithmIn_singleton (a : Algorithm) : algorithmIn [a] (.str a.name) = .ok a := by
  simp [algorithmIn]

/-! ## The library that decodes JWS -/

namespace TokenLibrary

/-- The library that decodes JWS. -/
def jws [Platform] : TokenLibrary where
  header token := do
    let bytes ← TokenPolicy.bytesOf token
    let t ← (Jws.parse bytes).mapError .malformed
    if !t.hasFitKeyId then throw (.malformed .keyId)
    return t.header
  claims token := do
    let bytes ← TokenPolicy.bytesOf token
    let (_, claims) ← (Jws.unverified bytes).mapError .malformed
    return claims
  decode token key algorithms rules :=
    match TokenPolicy.bytesOf token with
    | .error _ => .error .decode
    | .ok bytes => do
      let (t, claims) ← Jws.unverified bytes
      match algorithmIn algorithms ((Json.Members.get? t.header "alg").getD .null) with
      | .error _ => .error .decode
      | .ok a =>
        a.check key t.signed t.signature
        rules.check claims
        return claims

/-- The object in the payload of a token. -/
def payloadOf [Platform] (token : Json) : Option Json.Members := do
  let bytes ← (TokenPolicy.bytesOf token).toOption
  let t ← (Jws.parse bytes).toOption
  (Jws.objectOf t.payload).toOption

/-- A token has a signature that an algorithm checks under a key. -/
def SignedBy [Platform] (token : Json) (key : PublicKey) (a : Algorithm) : Prop :=
  ∃ bytes t, TokenPolicy.bytesOf token = .ok bytes ∧ Jws.parse bytes = .ok t ∧
    a.check key t.signed t.signature = .ok ()

theorem unverified_eq_ok [Platform] {bytes : List UInt8} {t : Jws} {ms : Json.Members}
    (h : Jws.unverified bytes = .ok (t, ms)) :
    Jws.parse bytes = .ok t ∧ t.hasFitKeyId = true ∧ Jws.objectOf t.payload = .ok ms := by
  unfold Jws.unverified at h
  obtain ⟨t', hparse, h⟩ := bind_eq_ok.mp h
  split at h
  · cases h
  rename_i hfit
  obtain ⟨ms', hclaims, h⟩ := bind_eq_ok.mp h
  cases h
  unfold Jws.claims at hclaims
  split at hclaims
  · cases hclaims
  · exact ⟨hparse, by simpa using hfit, hclaims⟩

theorem payloadOf_eq_some [Platform] {token : Json} {bytes : List UInt8} {t : Jws} {ms : Json.Members}
    (hbytes : TokenPolicy.bytesOf token = .ok bytes) (h : Jws.unverified bytes = .ok (t, ms)) :
    payloadOf token = some ms := by
  obtain ⟨hparse, -, hobject⟩ := unverified_eq_ok h
  unfold payloadOf
  rw [hbytes, Except.toOption, Option.bind_eq_bind, Option.bind_some, hparse, Except.toOption,
    Option.bind_eq_bind, Option.bind_some, hobject]
  rfl

theorem decode_jws_eq_ok [Platform] {token : Json} {key : PublicKey} {algorithms : List Algorithm}
    {rules : ClaimRules}
    {ms : Json.Members} (h : jws.decode token key algorithms rules = .ok ms) :
    ∃ bytes t a, TokenPolicy.bytesOf token = .ok bytes ∧ Jws.unverified bytes = .ok (t, ms) ∧
      a ∈ algorithms ∧ a.check key t.signed t.signature = .ok () := by
  simp only [jws] at h
  split at h
  · cases h
  rename_i bytes hbytes
  obtain ⟨⟨t, claims⟩, hunverified, h⟩ := bind_eq_ok.mp h
  dsimp only at h
  split at h
  · cases h
  rename_i a ha
  obtain ⟨u, hcheck, h⟩ := bind_eq_ok.mp h
  obtain ⟨u', -, h⟩ := bind_eq_ok.mp h
  cases h
  exact ⟨bytes, t, a, hbytes, hunverified, (algorithmIn_eq_ok ha).1, hcheck⟩

theorem reliable_jws [Platform] : jws.Reliable payloadOf SignedBy where
  claims token ms h := by
    obtain ⟨bytes, hbytes, h⟩ := bind_eq_ok.mp h
    obtain ⟨⟨t, claims⟩, hunverified, h⟩ := bind_eq_ok.mp h
    cases h
    exact payloadOf_eq_some hbytes (mapError_eq_ok.mp hunverified)
  decode token key algorithms rules ms h := by
    obtain ⟨bytes, t, a, hbytes, hunverified, -⟩ := decode_jws_eq_ok h
    exact payloadOf_eq_some hbytes hunverified
  signed token key algorithms rules ms h := by
    obtain ⟨bytes, t, a, hbytes, hunverified, ha, hcheck⟩ := decode_jws_eq_ok h
    exact ⟨a, ha, bytes, t, hbytes, (unverified_eq_ok hunverified).1, hcheck⟩

end TokenLibrary

namespace TokenPolicy

variable {v : TokenPolicy} {now : Number} {token : Json}

theorem readBy_jws [Platform] (v : TokenPolicy) (token : Json) :
    v.readBy .jws token = (v.read token).map fun t => (t.algorithm, t.keyId, t.issuer) := by
  simp only [readBy, read, TokenLibrary.jws, Jws.unverified, bind, Except.bind, Except.map, Except.mapError,
    pure, Except.pure, throw, throwThe, MonadExceptOf.throw]
  cases bytesOf token with
  | error e => rfl
  | ok bytes =>
    dsimp only
    cases Jws.parse bytes with
    | error e => rfl
    | ok t =>
      dsimp only
      cases t.hasFitKeyId with
      | false => rfl
      | true =>
        simp only [Bool.not_true, Bool.false_eq_true, if_false]
        cases t.claims with
        | error e => rfl
        | ok claims =>
          dsimp only
          cases algorithmIn v.algorithms ((Json.Members.get? t.header "alg").getD .null) with
          | error e => rfl
          | ok a =>
            dsimp only
            cases textMember t.header "kid" with
            | error e => rfl
            | ok keyId =>
              dsimp only
              cases textMember claims "iss" with
              | error e => rfl
              | ok issuer => rfl

theorem read_eq_ok [Platform] {t : CheckedToken} (h : v.read token = .ok t) :
    ∃ bytes, bytesOf token = .ok bytes ∧ Jws.unverified bytes = .ok (t.token, t.claims) ∧
      algorithmIn v.algorithms ((Json.Members.get? t.token.header "alg").getD .null) = .ok t.algorithm := by
  unfold read at h
  obtain ⟨bytes, hbytes, h⟩ := bind_eq_ok.mp h
  obtain ⟨⟨jws, claims⟩, hunverified, h⟩ := bind_eq_ok.mp h
  obtain ⟨a, ha, h⟩ := bind_eq_ok.mp h
  obtain ⟨keyId, hkeyId, h⟩ := bind_eq_ok.mp h
  obtain ⟨issuer, hissuer, h⟩ := bind_eq_ok.mp h
  cases h
  exact ⟨bytes, hbytes, mapError_eq_ok.mp hunverified, ha⟩

theorem acceptBy_jws [Platform] {t : CheckedToken} (h : v.read token = .ok t) (key : PublicKey) :
    v.acceptBy .jws now token t.algorithm t.keyId key = v.accept now t key := by
  obtain ⟨bytes, hbytes, hunverified, ha⟩ := read_eq_ok h
  have hone : algorithmIn [t.algorithm] ((Json.Members.get? t.token.header "alg").getD .null) =
      .ok t.algorithm := by
    rw [(algorithmIn_eq_ok ha).2]
    exact algorithmIn_singleton t.algorithm
  simp only [acceptBy, accept, TokenLibrary.jws, hbytes, hunverified, hone, bind, Except.bind,
    Except.mapError,
    pure, Except.pure]
  cases (sorted? (v.required.map (·.1))).isNone with
  | true => rfl
  | false =>
    simp only [Bool.false_eq_true, if_false]
    cases t.algorithm.check key t.token.signed t.token.signature with
    | error fault => rfl
    | ok u =>
      dsimp only
      cases (v.rules now).check t.claims with
      | error fault => rfl
      | ok u => rfl

/-- Verifying a token is verifying it by the library that decodes JWS. -/
theorem verify_eq [Platform] (v : TokenPolicy) (now : Number) (token : Json) :
    v.verify now token = v.verifyBy .jws now token := by
  unfold verify verifyBy
  rw [readBy_jws]
  cases hread : v.read token with
  | error e => rfl
  | ok t =>
    simp only [Except.map]
    refine congrArg (Dialogue.bind _) (funext fun r => ?_)
    cases r with
    | error e => rfl
    | ok key => exact congrArg Dialogue.done (acceptBy_jws hread key).symm

/-! ## What is accepted -/

variable {lib : TokenLibrary} {payload : Json → Option Json.Members}
  {Signed : Json → PublicKey → Algorithm → Prop} {a : Algorithm} {keyId issuer : Option Text}
    {key : PublicKey} {claims : Json.Members}

theorem textMember_eq_ok {ms : Json.Members} {name : String} {t : Option Text}
    (h : textMember ms name = .ok t) : (Json.Members.get? ms name).getD .null = Json.ofText? t := by
  unfold textMember at h
  split at h
  · rename_i hn
    cases h
    exact hn
  · rename_i x hx
    cases h
    exact hx
  · cases h

theorem name_mem_of_listOf {listed : Json} {as : List Algorithm} (h : Algorithm.listOf listed = .ok as)
    (ha : a ∈ as) : ∃ names, namesOf listed = .ok names ∧ .str a.name ∈ names := by
  unfold Algorithm.listOf at h
  split at h
  · cases h
  rename_i names hnames
  split at h
  · cases h
  · cases h
    obtain ⟨name, hname, hfind⟩ := List.mem_filterMap.mp ha
    have heq : name = .str a.name := by simpa using List.find?_some hfind
    exact ⟨names, hnames, heq ▸ hname⟩
  · cases h

theorem readBy_eq_ok (h : v.readBy lib token = .ok (a, keyId, issuer)) :
    ∃ header ms, lib.header token = .ok header ∧ lib.claims token = .ok ms ∧ a ∈ v.algorithms ∧
      Json.Members.get? header "alg" = some (.str a.name) ∧
      (Json.Members.get? header "kid").getD .null = Json.ofText? keyId ∧
      claimOf ms (.str "iss") = Json.ofText? issuer := by
  unfold readBy at h
  obtain ⟨header, hheader, h⟩ := bind_eq_ok.mp h
  obtain ⟨ms, hms, h⟩ := bind_eq_ok.mp h
  obtain ⟨a', ha, h⟩ := bind_eq_ok.mp h
  obtain ⟨keyId', hkeyId, h⟩ := bind_eq_ok.mp h
  obtain ⟨issuer', hissuer, h⟩ := bind_eq_ok.mp h
  cases h
  obtain ⟨hmem, hname⟩ := algorithmIn_eq_ok ha
  exact ⟨header, ms, hheader, hms, hmem, Json.Members.get?_of_getD hname, textMember_eq_ok hkeyId,
    textMember_eq_ok hissuer⟩

theorem acceptBy_eq_ok (h : v.acceptBy lib now token a keyId key = .ok claims) :
    lib.decode token key [a] (v.rules now) = .ok claims := by
  unfold acceptBy at h
  split at h
  · cases h
  obtain ⟨ms, hms, h⟩ := bind_eq_ok.mp h
  obtain ⟨u, -, h⟩ := bind_eq_ok.mp h
  cases h
  exact mapError_eq_ok.mp hms

/-- What came before a token was accepted: it was read, and its key was found. -/
theorem run_verifyBy [Platform] {w : Surroundings} {start : Progress}
    (h : ((v.verifyBy lib now token).run w start).1 = .finished (.ok claims)) :
    ∃ a keyId issuer key, v.readBy lib token = .ok (a, keyId, issuer) ∧
      ((v.keys.signingKey (Json.ofText? issuer) (Json.ofText? keyId)).run w start).1 = .finished (.ok key) ∧
      v.acceptBy lib now token a keyId key = .ok claims := by
  unfold verifyBy at h
  split at h
  · cases h
  rename_i a keyId issuer hread
  rw [Dialogue.bind_eq, Dialogue.run_bind] at h
  refine ⟨a, keyId, issuer, ?_⟩
  generalize (v.keys.signingKey (Json.ofText? issuer) (Json.ofText? keyId)).run w start = r at h ⊢
  obtain ⟨e, q⟩ := r
  cases e with
  | cancelled => cases h
  | finished r =>
    cases r with
    | error e => cases h
    | ok key => exact ⟨key, hread, rfl, by simpa [Dialogue.run] using h⟩

theorem isPresent_of_signingKey [Platform] {s : KeySource} {issuer keyId : Json} {w : Surroundings}
    {start : Progress}
    (h : ((s.signingKey issuer keyId).run w start).1 = .finished (.ok key)) : keyId.isPresent = true := by
  unfold KeySource.signingKey at h
  split at h
  · cases h
  · rename_i hp
    simpa using hp

/-- A token that was accepted with these claims is sound: its header names an algorithm that was configured,
and a key, and it is signed by that algorithm with the key that was found for the issuer which the claims
name.  Where keys are not provided, the key is bound to that issuer. -/
inductive Sound [Platform] (lib : TokenLibrary) (Signed : Json → PublicKey → Algorithm → Prop)
    (v : TokenPolicy)
    (listed token : Json) (w : Surroundings) (start : Progress) (claims : Json.Members) : Prop where
  | intro {header : Json.Members} {names : List Json} {a : Algorithm} {kid : Text} {key : PublicKey}
      (read : lib.header token = .ok header)
      (alg : Json.Members.get? header "alg" = some (.str a.name))
      (lists : namesOf listed = .ok names)
      (configured : .str a.name ∈ names)
      (asymmetric : a ∈ Algorithm.all)
      (keyId : Json.Members.get? header "kid" = some (.str kid))
      (nonEmpty : kid.points ≠ [])
      (found : ((v.keys.signingKey (claimOf claims (.str "iss")) (.str kid)).run w start).1 =
        .finished (.ok key))
      (signed : Signed token key a)
      (bound : v.keys.provided = none → v.keys.Bound (claimOf claims (.str "iss")) (.str kid) key
        ((v.keys.signingKey (claimOf claims (.str "iss")) (.str kid)).transcript w start))

/-- A token that is accepted by a library that can be relied on is sound, whatever the resolver answers, and
its claims are the object in its payload. -/
theorem verifyBy_sound [Platform] (hl : lib.Reliable payload Signed) {listed : Json}
    (hv : Algorithm.listOf listed = .ok v.algorithms) (now : Number) (token : Json) (w : Surroundings)
    (start : Progress) (h : ((v.verifyBy lib now token).run w start).1 = .finished (.ok claims)) :
    payload token = some claims ∧ v.Sound lib Signed listed token w start claims := by
  obtain ⟨a, keyId, issuer, key, hread, hkey, haccept⟩ := run_verifyBy h
  obtain ⟨header, ms, hheader, hms, ha, halg, hkid, hiss⟩ := readBy_eq_ok hread
  have hdecode := acceptBy_eq_ok haccept
  have hpayload : payload token = some claims := hl.decode _ _ _ _ _ hdecode
  -- both decodings have seen the same payload, so the issuer is the one that the key was found for
  obtain rfl : ms = claims := Option.some.inj ((hl.claims _ _ hms).symm.trans hpayload)
  obtain ⟨a', ha', hsigned⟩ := hl.signed _ _ _ _ _ hdecode
  obtain rfl : a' = a := List.mem_singleton.mp ha'
  obtain ⟨names, hnames, hname⟩ := name_mem_of_listOf hv ha
  have hpresent := isPresent_of_signingKey hkey
  cases keyId with
  | none => cases hpresent
  | some kid =>
    have hnamed : kid.points ≠ [] := by simpa [Json.ofText?, Json.isPresent, Text.isEmpty] using hpresent
    rw [← hiss] at hkey
    have hkid := Json.Members.get?_of_getD hkid
    refine ⟨hpayload, .intro hheader halg hnames hname ?_ hkid hnamed hkey hsigned fun hp => ?_⟩
    · cases a' <;> decide
    · have hcourse := Dialogue.run_course w (v.keys.signingKey (claimOf ms (.str "iss")) (.str kid)) start
      rw [show (Dialogue.run w (v.keys.signingKey _ (.str kid)) start).1 = _ from hkey] at hcourse
      exact KeySource.course_bound hp hcourse

/-- **A token that is accepted is sound**, whatever the resolver answers: by whatever library that can be
relied on, and so by the one that decodes JWS. -/
theorem verify_sound [Platform] {v : TokenPolicy} {listed : Json}
    (hv : Algorithm.listOf listed = .ok v.algorithms)
    (now : Number) (token : Json) (w : Surroundings) (start : Progress) (claims : Json.Members) :
    (∀ (lib : TokenLibrary) (payload : Json → Option Json.Members)
        (Signed : Json → PublicKey → Algorithm → Prop), lib.Reliable payload Signed →
        ((v.verifyBy lib now token).run w start).1 = .finished (.ok claims) →
        payload token = some claims ∧ v.Sound lib Signed listed token w start claims) ∧
      (((v.verify now token).run w start).1 = .finished (.ok claims) →
        TokenLibrary.payloadOf token = some claims ∧
          v.Sound .jws TokenLibrary.SignedBy listed token w start claims) := by
  refine ⟨fun lib payload Signed hl h => verifyBy_sound hl hv now token w start h, fun h => ?_⟩
  rw [verify_eq] at h
  exact verifyBy_sound TokenLibrary.reliable_jws hv now token w start h

/-- A policy for tokens that are signed with Ed25519, by keys that are resolved. -/
def samplePolicy : TokenPolicy where
  keys := ⟨some ⟨"http://resolver"⟩, none⟩
  algorithms := [.edDsa]
  audience := .null
  issuer := .null
  leeway := .real (Binary64.ofInt 0)
  required := []

/-- A document with an Ed25519 key. -/
def signerDocument : List Char :=
  "\x7b\"id\":\"did:example:123\",\"publicKey\":[\x7b\"id\":\"#primary\",".toList ++
    "\"publicKeyJwk\":\x7b\"kty\":\"OKP\",\"crv\":\"Ed25519\",".toList ++
    "\"x\":\"11qYAYKxCrfVS_7TyWQHOg7hcvPapiMlrwIaaPcHURo\"\x7d\x7d]\x7d".toList

/-- A token of `did:example:123`, signed with the key in the document: the three segments of its header,
of its claims and of its signature. -/
def signedToken : Json :=
  .str ("eyJhbGciOiJFZERTQSIsImtpZCI6InByaW1hcnkifQ." ++
    "eyJpc3MiOiJkaWQ6ZXhhbXBsZToxMjMifQ." ++
    "DNyVtRH7tiTq0JXMk_W5XsbpcybH9CeGFgQFrNoXtcc" ++
    "MaV74jgL8eSACyW4eVymBqlkvi7B0R2D0SHhL1fx0Ag")

/-- The claims of the token. -/
def signedClaims : Json.Members := [("iss", .str "did:example:123")]

section

attribute [local instance] Platform.usual

theorem verify_sound_signed :
    Algorithm.listOf (.arr [.str "EdDSA"]) = .ok samplePolicy.algorithms ∧
      ((samplePolicy.verify (.int 0) signedToken).run
        (Ledger.responding (Resolver.carrying signerDocument)) ⟨.fresh, 0, 0, []⟩).1 =
          .finished (.ok signedClaims) ∧
      TokenLibrary.jws.Reliable TokenLibrary.payloadOf TokenLibrary.SignedBy ∧
      TokenLibrary.payloadOf signedToken = some signedClaims ∧
      samplePolicy.Sound .jws TokenLibrary.SignedBy (.arr [.str "EdDSA"]) signedToken
        (Ledger.responding (Resolver.carrying signerDocument)) ⟨.fresh, 0, 0, []⟩ signedClaims := by
  have hv : Algorithm.listOf (.arr [.str "EdDSA"]) = .ok samplePolicy.algorithms :=
    toOption_eq_some.mp (by decide +kernel)
  have h : ((samplePolicy.verify (.int 0) signedToken).run
      (Ledger.responding (Resolver.carrying signerDocument)) ⟨.fresh, 0, 0, []⟩).1 =
        .finished (.ok signedClaims) :=
    Ending.value?_eq_some.mp (by decide +kernel)
  have hlibrary := verify_sound hv (.int 0) signedToken
    (Ledger.responding (Resolver.carrying signerDocument)) ⟨.fresh, 0, 0, []⟩ signedClaims
  have hby := h
  rw [verify_eq] at hby
  exact ⟨hv, h, TokenLibrary.reliable_jws, hlibrary.1 _ _ _ TokenLibrary.reliable_jws hby⟩

end

end TokenPolicy

end DidRegistry
