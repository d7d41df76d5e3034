import DidRegistry.Platform.Usual
import DidRegistry.Proofs.Json.Equality
import DidRegistry.Proofs.Token.Acceptance

/-!
# Required claims

A policy may require claims to have certain values, and the claims of a token that is accepted are held
against them.  Every one of them is there, and its value counts as equal to the one that is required.
That is not quite to be the same value: who requires `true` accepts 1.

## Results

* `TokenPolicy.checkRequired_eq_ok` — which claims have the required values.
* `TokenLibrary.checks_jws` — the library that decodes JWS looks for the claims that have to be there.
* `TokenPolicy.verify_exact_iff` — **the claims that are returned have exactly the values that are
  required, unless somewhere in them a truth value stands for a number**.
-/

set_option autoImplicit false

namespace DidRegistry

/-! ## What is required -/

/-- The claim with a name is there and has a value; the name is a text. -/
def HasClaim (claims : Json.Members) (name value : Json) : Prop :=
  ∃ key, name = .str key ∧ claims.get? key = some value

/-- Claims are exactly as required: each of them is there and is the same JSON value. -/
def ExactClaims (claims : Json.Members) (required : Entries) : Prop :=
  ∀ p ∈ required, ∃ x, HasClaim claims p.1 x ∧ x.Same p.2

/-- A claim passes for the required one with a truth value for a number in it, or a number for a truth
value. -/
def Mistaken (claims : Json.Members) (p : Json × Json) : Prop :=
  ∃ x, HasClaim claims p.1 x ∧ x.Coerced p.2

/-- Claims were held against the ones that are required. -/
structure HeldAgainst (claims : Json.Members) (required : Entries) : Prop where
  exact_iff : ExactClaims claims required ↔ ∀ p ∈ required, ¬Mistaken claims p
  /-- No claim is mistaken for one whose value has neither a truth value nor a zero or a one in it. -/
  exact_of_unmistakable : (∀ p ∈ required, ¬p.2.Mistakable) → ExactClaims claims required

variable {claims : Json.Members} {required : Entries} {name x y : Json}

theorem HasClaim.unique (hx : HasClaim claims name x) (hy : HasClaim claims name y) : x = y := by
  obtain ⟨key, rfl, hx⟩ := hx
  obtain ⟨key', hkey, hy⟩ := hy
  cases hkey
  exact Option.some.inj (hx.symm.trans hy)

theorem HasClaim.keyed (h : Json.Keyed (.obj claims)) (hx : HasClaim claims name x) : x.Keyed := by
  obtain ⟨key, -, hx⟩ := hx
  cases h with
  | obj _ parts => exact parts _ (Json.Members.mem_of_get? hx)

theorem hasClaim_of_ne_null (h : claimOf claims name ≠ .null) :
    HasClaim claims name (claimOf claims name) := by
  cases name with
  | str key =>
    cases hx : claims.get? key with
    | none => simp [claimOf, hx] at h
    | some x => exact ⟨key, rfl, by simp [claimOf, hx]⟩
  | _ => exact absurd rfl h

/-- Claims that are there and count as equal to the required ones are held against them. -/
theorem heldAgainst (hkeyed : Json.Keyed (.obj claims)) (hthere : ∀ p ∈ required, claimOf claims p.1 ≠ .null)
    (hequal : ∀ p ∈ required, (claimOf claims p.1).equals p.2 = true) : HeldAgainst claims required := by
  have hclaim : ∀ p ∈ required, HasClaim claims p.1 (claimOf claims p.1) :=
    fun p hp => hasClaim_of_ne_null (hthere p hp)
  have hsame : ∀ p ∈ required, ((claimOf claims p.1).Same p.2 ↔ ¬(claimOf claims p.1).Coerced p.2) :=
    fun p hp => Json.same_iff_of_equals ((hclaim p hp).keyed hkeyed) (hequal p hp)
  have hiff : ExactClaims claims required ↔ ∀ p ∈ required, ¬Mistaken claims p := by
    constructor
    · rintro hexact p hp ⟨x, hx, hcoerced⟩
      obtain ⟨y, hy, hys⟩ := hexact p hp
      obtain rfl := hx.unique hy
      obtain rfl := hx.unique (hclaim p hp)
      exact (hsame p hp).mp hys hcoerced
    · intro hnone p hp
      refine ⟨_, hclaim p hp, (hsame p hp).mpr fun hcoerced => ?_⟩
      exact hnone p hp ⟨_, hclaim p hp, hcoerced⟩
  refine ⟨hiff, fun hsafe => hiff.mpr ?_⟩
  rintro p hp ⟨x, hx, hcoerced⟩
  obtain rfl := hx.unique (hclaim p hp)
  exact hsafe p hp (hcoerced.mistakable (hequal p hp))

namespace TokenLibrary

/-- What a library is relied on for with claims that are required: it gives claims in which no key comes
twice, and only if each of the claims that have to be there is, with a value other than null. -/
structure Checks (lib : TokenLibrary) : Prop where
  keyed : ∀ token key algorithms rules ms,
    lib.decode token key algorithms rules = .ok ms → Json.Keyed (.obj ms)
  required : ∀ token key algorithms rules ms,
    lib.decode token key algorithms rules = .ok ms → ∀ name ∈ rules.required, claimOf ms name ≠ .null

theorem keyed_of_objectOf [Platform] {bytes : List UInt8} {ms : Json.Members}
    (h : Jws.objectOf bytes = .ok ms) :
    Json.Keyed (.obj ms) := by
  unfold Jws.objectOf at h
  split at h
  · rename_i hread
    cases h
    exact Json.keyed_of_readBody hread
  · cases h
  · cases h

theorem required_of_check {rules : ClaimRules} {ms : Json.Members} (h : rules.check ms = .ok ()) :
    ∀ name ∈ rules.required, claimOf ms name ≠ .null := by
  intro name hname hnull
  have hmissing : (rules.required.any fun k => claimOf ms k = .null) = true :=
    List.any_eq_true.mpr ⟨name, hname, decide_eq_true hnull⟩
  simp only [ClaimRules.check, hmissing, if_true] at h
  split at h <;> cases h

theorem checks_jws [Platform] : jws.Checks where
  keyed token key algorithms rules ms h := by
    obtain ⟨bytes, t, a, -, hunverified, -⟩ := decode_jws_eq_ok h
    exact keyed_of_objectOf (unverified_eq_ok hunverified).2.2
  required token key algorithms rules ms h := by
    simp only [jws] at h
    split at h
    · cases h
    obtain ⟨⟨t, claims⟩, -, h⟩ := bind_eq_ok.mp h
    dsimp only at h
    split at h
    · cases h
    obtain ⟨u, -, h⟩ := bind_eq_ok.mp h
    obtain ⟨u', hrules, h⟩ := bind_eq_ok.mp h
    cases h
    exact required_of_check hrules

end TokenLibrary

namespace TokenPolicy

variable {lib : TokenLibrary} {v : TokenPolicy} {now : Number} {token : Json}

/-- Which claims have the required values. -/
theorem checkRequired_eq_ok :
    checkRequired claims required = .ok () ↔ ∀ p ∈ required, (claimOf claims p.1).equals p.2 = true := by
  induction required with
  | nil => simp [checkRequired]
  | cons p r ih =>
    obtain ⟨name, expected⟩ := p
    rw [checkRequired, List.forall_mem_cons]
    cases (claimOf claims name).equals expected <;> simp [ih]

theorem required_of_acceptBy {a : Algorithm} {keyId : Option Text} {key : PublicKey}
    (h : v.acceptBy lib now token a keyId key = .ok claims) : checkRequired claims v.required = .ok () := by
  unfold acceptBy at h
  split at h
  · cases h
  obtain ⟨ms, -, h⟩ := bind_eq_ok.mp h
  obtain ⟨u, hrequired, h⟩ := bind_eq_ok.mp h
  cases h
  exact hrequired

/-- The claims of a token that is accepted are held against the required ones. -/
theorem verifyBy_heldAgainst [Platform] (hl : lib.Checks) {w : Surroundings} {start : Progress}
    (h : ((v.verifyBy lib now token).run w start).1 = .finished (.ok claims)) :
    HeldAgainst claims v.required := by
  obtain ⟨a, keyId, issuer, key, -, -, haccept⟩ := run_verifyBy h
  have hdecode := acceptBy_eq_ok haccept
  refine heldAgainst (hl.keyed _ _ _ _ _ hdecode) (fun p hp => ?_)
    (checkRequired_eq_ok.mp (required_of_acceptBy haccept))
  exact hl.required _ _ _ _ _ hdecode p.1 (List.mem_map_of_mem hp)

/-- **The claims that are returned have exactly the values that are required, unless somewhere in them a
truth value stands for a number**, whatever the resolver answers: with any library that looks for the
claims that have to be there, and so with the one that decodes JWS. -/
theorem verify_exact_iff [Platform] (v : TokenPolicy) (now : Number) (token : Json) (w : Surroundings)
    (start : Progress)
    (claims : Json.Members) :
    (∀ lib : TokenLibrary, lib.Checks →
        ((v.verifyBy lib now token).run w start).1 = .finished (.ok claims) → HeldAgainst claims v.required) ∧
      (((v.verify now token).run w start).1 = .finished (.ok claims) → HeldAgainst claims v.required) := by
  refine ⟨fun lib hl h => verifyBy_heldAgainst hl h, fun h => ?_⟩
  rw [verify_eq] at h
  exact verifyBy_heldAgainst TokenLibrary.checks_jws h

/-- A policy that knows the key `primary` and requires a claim. -/
def requiring (name : Text) (value : Json) : TokenPolicy where
  keys := ⟨none, some [("primary", .ed25519
    [0xd7, 0x5a, 0x98, 0x01, 0x82, 0xb1, 0x0a, 0xb7, 0xd5, 0x4b, 0xfe, 0xd3, 0xc9, 0x64, 0x07, 0x3a,
      0x0e, 0xe1, 0x72, 0xf3, 0xda, 0xa6, 0x23, 0x25, 0xaf, 0x02, 0x1a, 0x68, 0xf7, 0x07, 0x51, 0x1a])]⟩
  algorithms := [.edDsa]
  audience := .null
  issuer := .null
  leeway := .real (Binary64.ofInt 0)
  required := [(.str name, value)]

/-- A token that is signed with that key. -/
def rankedToken : Json :=
  .str ("eyJhbGciOiJFZERTQSIsImtpZCI6InByaW1hcnkifQ." ++
    "eyJhZG1pbiI6MSwibGV2ZWwiOjIuMH0." ++
    "k7P2WJ9XjxQyy-5aHEgT4pglltX8_-pi-iKbiv398xu" ++
    "-31-HCgHTsphMPlyexrgNbbrQpjZUDe6_qHg4g2HbCg")

/-- The claims of the token. -/
def rankedClaims : Json.Members := [("admin", .int 1), ("level", .real (Binary64.ofInt 2))]

section

attribute [local instance] Platform.usual

theorem verify_exact_iff_level :
    (((requiring "level" (.int 2)).verify (.int 0) rankedToken).run
        (Ledger.responding (Resolver.carrying signerDocument)) ⟨.fresh, 0, 0, []⟩).1 =
          .finished (.ok rankedClaims) ∧
      TokenLibrary.jws.Checks ∧ HeldAgainst rankedClaims (requiring "level" (.int 2)).required := by
  have h : (((requiring "level" (.int 2)).verify (.int 0) rankedToken).run
      (Ledger.responding (Resolver.carrying signerDocument)) ⟨.fresh, 0, 0, []⟩).1 =
        .finished (.ok rankedClaims) :=
    Ending.value?_eq_some.mp (by decide +kernel)
  have hby := h
  rw [verify_eq] at hby
  exact ⟨h, TokenLibrary.checks_jws, (verify_exact_iff _ _ _ _ _ _).1 .jws TokenLibrary.checks_jws hby⟩

/-- A token whose claim `admin` is 1 is accepted where `true` is required. -/
theorem not_exact_admin :
    (((requiring "admin" (.bool true)).verify (.int 0) rankedToken).run
        (Ledger.responding (Resolver.carrying signerDocument)) ⟨.fresh, 0, 0, []⟩).1 =
          .finished (.ok rankedClaims) ∧
      ¬ExactClaims rankedClaims (requiring "admin" (.bool true)).required := by
  refine ⟨Ending.value?_eq_some.mp (by decide +kernel), fun h => ?_⟩
  obtain ⟨x, ⟨key, hkey, hx⟩, hsame⟩ := h _ (List.mem_singleton.mpr rfl)
  cases hkey
  obtain rfl : .int 1 = x := by simpa [rankedClaims, Json.Members.get?] using hx
  cases hsame with
  | number _ right _ => cases right

end

end TokenPolicy

end DidRegistry
