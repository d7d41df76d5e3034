import DidRegistry.Proofs.Token.Acceptance
import DidRegistry.Proofs.Token.KeyMaterial

/-!
# Warranted questions

A token comes from anybody, and to verify it a resolver may have to be asked.  It is asked only when
everything that can be told without it is in order: the token decodes, its algorithm is accepted, it names
a key and an issuer, and that key is not provided.  Then one question goes out, for the issuer.  In all
other cases nothing goes out, so that what verifying comes to does not depend on anything a resolver could
have answered.

## Results

* `TokenPolicy.readBy_eq_ok_iff` — which tokens are read, and what is read of them.
* `KeySource.questions_or_settled` — a key is looked up with one question, or settled without any.
* `TokenPolicy.warrants_iff` — which tokens warrant a question.
* `TokenPolicy.verify_warranted` — **verifying a token asks one question if the token warrants it, and
  comes to the same whatever would be answered if it does not**.
-/

set_option autoImplicit false

namespace DidRegistry

/-! ## What is read of a token -/

theorem Algorithm.name_injective {a b : Algorithm} (h : Json.str a.name = .str b.name) : a = b := by
  revert h
  cases a <;> cases b <;> decide

theorem algorithmIn_of_mem {accepted : List Algorithm} {a : Algorithm} (ha : a ∈ accepted) :
    algorithmIn accepted (.str a.name) = .ok a := by
  unfold algorithmIn
  cases hfind : accepted.find? fun b => Json.str a.name = .str b.name with
  | none =>
    have hother := List.find?_eq_none.mp hfind a ha
    simp at hother
  | some b =>
    have hname : Json.str a.name = .str b.name := by simpa using List.find?_some hfind
    rw [Algorithm.name_injective hname]

theorem textMember_eq_ok_iff {ms : Json.Members} {name : String} {t : Option Text} :
    textMember ms name = .ok t ↔ (Json.Members.get? ms name).getD .null = Json.ofText? t := by
  refine ⟨TokenPolicy.textMember_eq_ok, fun h => ?_⟩
  unfold textMember
  rw [h]
  cases t <;> rfl

namespace TokenPolicy

variable {lib : TokenLibrary} {v : TokenPolicy} {token : Json} {a : Algorithm} {keyId issuer : Option Text}

/-- Which tokens are read, and what is read of them. -/
theorem readBy_eq_ok_iff :
    v.readBy lib token = .ok (a, keyId, issuer) ↔
      ∃ header claims, lib.header token = .ok header ∧ lib.claims token = .ok claims ∧ a ∈ v.algorithms ∧
        Json.Members.get? header "alg" = some (.str a.name) ∧
        (Json.Members.get? header "kid").getD .null = Json.ofText? keyId ∧
        claimOf claims (.str "iss") = Json.ofText? issuer := by
  refine ⟨readBy_eq_ok, ?_⟩
  rintro ⟨header, claims, hheader, hclaims, ha, halg, hkid, hiss⟩
  have hfound : algorithmIn v.algorithms ((Json.Members.get? header "alg").getD .null) = .ok a := by
    rw [halg]
    exact algorithmIn_of_mem ha
  unfold readBy
  refine bind_eq_ok.mpr ⟨header, hheader, bind_eq_ok.mpr ⟨claims, hclaims, ?_⟩⟩
  refine bind_eq_ok.mpr ⟨a, hfound, bind_eq_ok.mpr ⟨keyId, textMember_eq_ok_iff.mpr hkid, ?_⟩⟩
  exact bind_eq_ok.mpr ⟨issuer, textMember_eq_ok_iff.mpr hiss, rfl⟩

end TokenPolicy

/-! ## Looking up a key -/

namespace KeySource

variable {s : KeySource} {issuer key : Json} {r : Resolver} {did : Did}

/-- A key is to be looked up with a question about the DID `did` to the resolver `r`: the key is named, it
is not provided, and the issuer is that DID. -/
structure Questions (s : KeySource) (issuer key : Json) (r : Resolver) (did : Did) : Prop where
  named : key.isPresent = true
  unprovided : s.provided = none
  resolver : s.resolver = some r
  issued : Did.parse issuer = .ok did

/-- **A key is looked up with one question, or settled without any**; and if no keys are provided, it is
settled by a refusal. -/
theorem questions_or_settled [Platform] (s : KeySource) (issuer key : Json) :
    (∃ r did, s.Questions issuer key r did) ∨
      (∀ r did, ¬s.Questions issuer key r did) ∧
        ∃ outcome, s.signingKey issuer key = .done outcome ∧
          (s.provided = none → ∃ e, outcome = .error e) := by
  unfold signingKey
  cases hkey : key.isPresent with
  | false =>
    refine .inr ⟨fun r did h => ?_, _, rfl, fun _ => ⟨_, rfl⟩⟩
    exact absurd h.named (by simp [hkey])
  | true =>
    simp only [Bool.not_true, Bool.false_eq_true, if_false]
    cases hp : s.provided with
    | some keys =>
      refine .inr ⟨fun r did h => ?_, _, rfl, fun hnone => nomatch hnone⟩
      exact absurd h.unprovided (by simp [hp])
    | none =>
      cases hr : s.resolver with
      | none =>
        refine .inr ⟨fun r did h => ?_, _, rfl, fun _ => ⟨_, rfl⟩⟩
        exact absurd h.resolver (by simp [hr])
      | some r =>
        cases hdid : Did.parse issuer with
        | ok did => exact .inl ⟨r, did, hkey, hp, hr, hdid⟩
        | error e =>
          have hsettled : ∃ e, resolved r issuer key = .done (.error e) := by
            unfold resolved
            rw [hdid]
            split <;> exact ⟨_, rfl⟩
          obtain ⟨e', he'⟩ := hsettled
          refine .inr ⟨fun r did h => ?_, _, he', fun _ => ⟨e', rfl⟩⟩
          cases h.issued.symm.trans hdid

end KeySource

/-! ## Verifying -/

namespace TokenPolicy

variable {lib : TokenLibrary} {v : TokenPolicy} {token : Json} {r : Resolver} {did : Did}

/-- A token warrants a question about the DID `did` to the resolver `r`: its header and its payload parse,
its algorithm is one of those that are configured, it has a key identifier and an issuer, neither of which
is empty, keys are not provided but resolved by `r`, and the issuer is read as that DID. -/
inductive Warrants (lib : TokenLibrary) (v : TokenPolicy) (token : Json) (r : Resolver) (did : Did) :
    Prop where
  | intro {header claims : Json.Members} {a : Algorithm} {kid iss : Text}
      (headerParses : lib.header token = .ok header)
      (payloadParses : lib.claims token = .ok claims)
      (alg : Json.Members.get? header "alg" = some (.str a.name))
      (configured : a ∈ v.algorithms)
      (keyId : Json.Members.get? header "kid" = some (.str kid))
      (named : kid.points ≠ [])
      (unprovided : v.keys.provided = none)
      (resolver : v.keys.resolver = some r)
      (issuer : Json.Members.get? claims "iss" = some (.str iss))
      (issued : iss.points ≠ [])
      (did : Did.parse (.str iss) = .ok did)

theorem isPresent_ofText?_iff {t : Option Text} :
    (Json.ofText? t).isPresent = true ↔ ∃ x : Text, t = some x ∧ x.points ≠ [] := by
  cases t <;> simp [Json.ofText?, Json.isPresent, Text.isEmpty]

/-- A token warrants a question exactly when what is read of it names a key that has to be looked up with that
question. -/
theorem warrants_iff :
    v.Warrants lib token r did ↔
      ∃ a keyId issuer, v.readBy lib token = .ok (a, keyId, issuer) ∧
        v.keys.Questions (Json.ofText? issuer) (Json.ofText? keyId) r did := by
  constructor
  · rintro ⟨headerParses, payloadParses, alg, configured, keyId, named, unprovided, resolver, issuer, -, hdid⟩
    rename_i header claims a kid iss
    have hkid : (Json.Members.get? header "kid").getD .null = Json.ofText? (some kid) := by
      rw [keyId]
      rfl
    have hiss : claimOf claims (.str "iss") = Json.ofText? (some iss) := by
      show (Json.Members.get? claims "iss").getD .null = _
      rw [issuer]
      rfl
    have hread := readBy_eq_ok_iff.mpr ⟨header, claims, headerParses, payloadParses, configured, alg, hkid,
      hiss⟩
    exact ⟨a, some kid, some iss, hread, isPresent_ofText?_iff.mpr ⟨kid, rfl, named⟩, unprovided, resolver,
      hdid⟩
  · rintro ⟨a, keyId, issuer, hread, hkey, hunprovided, hresolver, hdid⟩
    obtain ⟨header, claims, hheader, hclaims, ha, halg, hkid, hiss⟩ := readBy_eq_ok_iff.mp hread
    obtain ⟨kid, rfl, hkidPoints⟩ := isPresent_ofText?_iff.mp hkey
    obtain ⟨iss, rfl, hissPoints⟩ := isPresent_ofText?_iff.mp (Did.isPresent_of_parse hdid)
    exact .intro hheader hclaims halg ha (Json.Members.get?_of_getD hkid) hkidPoints hunprovided hresolver
      (Json.Members.get?_of_getD hiss) hissPoints hdid

/-- What verifying a token asks for: one question, if the token warrants it, and nothing else; or nothing
at all.  In the latter case it comes to the same in all surroundings, and to a refusal unless keys are
provided. -/
inductive Warranted (lib : TokenLibrary) (v : TokenPolicy) (token : Json)
    (verifying : Dialogue (Except TokenError Json.Members)) : Prop where
  | asked {r : Resolver} {did : Did} (warrant : v.Warrants lib token r did)
      (once : ∀ w start, (verifying.run w start).2 =
        start.afterCall
          (.post r.url "did_resolveDID" [.obj [("did", .str did.toText), ("all", .bool true)]]))
  | settled {outcome : Except TokenError Json.Members}
      (unwarranted : ∀ r did, ¬v.Warrants lib token r did)
      (same : ∀ w start, verifying.run w start = (.finished outcome, start))
      (refused : v.keys.provided = none → ∃ e, outcome = .error e)

/-- What is made of a key that was found, or of the reason why there is none. -/
def conclusion (lib : TokenLibrary) (v : TokenPolicy) (now : Number) (token : Json) (a : Algorithm)
    (keyId : Option Text) (key : Except SigningKeyError PublicKey) : Except TokenError Json.Members :=
  (key.mapError .key).bind (v.acceptBy lib now token a keyId)

theorem verifyBy_of_readBy [Platform] {now : Number} {a : Algorithm} {keyId issuer : Option Text}
    (h : v.readBy lib token = .ok (a, keyId, issuer)) :
    v.verifyBy lib now token =
      (v.keys.signingKey (Json.ofText? issuer) (Json.ofText? keyId)).bind fun key =>
        .done (conclusion lib v now token a keyId key) := by
  unfold verifyBy
  rw [h]
  apply congrArg (Dialogue.bind _)
  funext key
  cases key <;> rfl

/-- A dialogue that asks one question and then is done has made one call, even if it is cancelled
meanwhile. -/
theorem run_question {α : Type} {c : Call} (f : c.Reply → α) (w : Surroundings) (start : Progress) :
    (((Dialogue.call c).bind fun reply => .done (f reply)).run w start).2 = start.afterCall c := by
  show (Dialogue.run w (.ask (.call c) fun reply => .done (f reply)) start).2 = _
  unfold Dialogue.run
  split <;> rfl

/-- Whatever library decodes a token, verifying it asks as far as the token warrants it. -/
theorem verifyBy_warranted [Platform] (lib : TokenLibrary) (v : TokenPolicy) (now : Number) (token : Json) :
    v.Warranted lib token (v.verifyBy lib now token) := by
  cases hread : v.readBy lib token with
  | error e =>
    have hsettled : v.verifyBy lib now token = .done (.error e) := by
      unfold verifyBy
      rw [hread]
      rfl
    rw [hsettled]
    refine .settled (fun r did h => ?_) (fun w start => rfl) fun _ => ⟨e, rfl⟩
    obtain ⟨a, keyId, issuer, hok, -⟩ := warrants_iff.mp h
    cases hread.symm.trans hok
  | ok parts =>
    obtain ⟨a, keyId, issuer⟩ := parts
    rw [verifyBy_of_readBy hread]
    rcases v.keys.questions_or_settled (Json.ofText? issuer) (Json.ofText? keyId) with
      ⟨r, did, hquestion⟩ | ⟨hnone, outcome, hsettled, hrefused⟩
    · have hwarrant := warrants_iff.mpr ⟨a, keyId, issuer, hread, hquestion⟩
      rw [KeySource.signingKey_eq hquestion.unprovided hquestion.resolver hquestion.issued hquestion.named]
      exact .asked hwarrant fun w start => run_question _ w start
    · rw [hsettled]
      refine .settled (fun r did h => ?_) (fun w start => rfl) fun hp => ?_
      · obtain ⟨b, keyId', issuer', hok, hquestion⟩ := warrants_iff.mp h
        cases hread.symm.trans hok
        exact hnone r did hquestion
      · obtain ⟨e, rfl⟩ := hrefused hp
        exact ⟨.key e, rfl⟩

/-- **Verifying a token asks one question if the token warrants it**, namely for the whole history of the DID
that its issuer is, **and comes to the same whatever would be answered if it does not**: with whatever library
decodes the token, and so with the one that decodes JWS. -/
theorem verify_warranted [Platform] (v : TokenPolicy) (now : Number) (token : Json) :
    (∀ lib : TokenLibrary, v.Warranted lib token (v.verifyBy lib now token)) ∧
      v.Warranted .jws token (v.verify now token) := by
  refine ⟨fun lib => verifyBy_warranted lib v now token, ?_⟩
  rw [verify_eq]
  exact verifyBy_warranted .jws v now token

end TokenPolicy

end DidRegistry
