import DidRegistry.Document.PublicKey
import DidRegistry.Proofs.Ledger.CallData
import DidRegistry.Proofs.Outcome
import DidRegistry.Proofs.Text.Base64

/-!
# Numbers in JWKs

The numbers of an RSA key and the coordinates of a point stand in a JWK as the base64 of their bytes, the
most significant one first.  How many zeros stand in front of these is of no account: the number that is
read is the one that was written at any width, and so it is the numbers alone that make the key.

## Results

* `PublicKey.memberNumber_of_bytes` — the bytes in a member are read as a number, whatever their count.
* `PublicKey.HoldsAt.memberNumber` — a number is read back at every width that it fits into.
* `PublicKey.ofJwk_rsa`, `PublicKey.ofJwkPoint_of_curve` — the key of a JWK is the one that its numbers make.
* `PublicKey.numbers_at_any_width` — **numbers are read back at every width, and JWKs that hold the same
  numbers give the same key or none**.
-/

set_option autoImplicit false

namespace DidRegistry.PublicKey

variable {jwk a b : Json} {name : String} {x y e n k : Nat}

/-- A member of a JWK holds a number at a width: as the base64 of so many bytes, the most significant one
first, into which the number fits. -/
structure HoldsAt (jwk : Json) (name : String) (x k : Nat) : Prop where
  positive : 1 ≤ k
  fits : x < 256 ^ k
  member : jwk.get? name = some (.str (.ofChars (Text.Base64.encode (Sha2.toBytes k x))))

/-- Two JWKs of one type hold the same numbers: RSA keys their exponent and their modulus, points of a
curve of one name their coordinates, each at some width. -/
inductive HoldSame (a b : Json) : Prop where
  | rsa {e n : Nat} (type : ∀ jwk ∈ [a, b], jwk.get? "kty" = some (.str "RSA"))
      (exponent : ∀ jwk ∈ [a, b], ∃ k, HoldsAt jwk "e" e k)
      (modulus : ∀ jwk ∈ [a, b], ∃ k, HoldsAt jwk "n" n k)
  | point {x y : Nat} (type : ∀ jwk ∈ [a, b], jwk.get? "kty" = some (.str "EC"))
      (curve : a.get? "crv" = b.get? "crv")
      (first : ∀ jwk ∈ [a, b], ∃ k, HoldsAt jwk "x" x k)
      (second : ∀ jwk ∈ [a, b], ∃ k, HoldsAt jwk "y" y k)

theorem encode_ne_nil {bytes : List UInt8} (h : bytes ≠ []) : Text.Base64.encode bytes ≠ [] := by
  unfold Text.Base64.encode
  split
  · exact (h rfl).elim
  all_goals exact List.cons_ne_nil _ _

/-- The bytes in a member are read as a number, whatever their count. -/
theorem memberNumber_of_bytes {bytes : List UInt8} (hne : bytes ≠ [])
    (h : jwk.get? name = some (.str (.ofChars (Text.Base64.encode bytes)))) :
    memberNumber jwk name = .ok (Sha2.bigEndian bytes) := by
  have hpresent : (Json.str (.ofChars (Text.Base64.encode bytes))).isPresent = true := by
    obtain ⟨c, r, hc⟩ := List.exists_cons_of_ne_nil (encode_ne_nil hne)
    rw [hc]
    rfl
  simp only [memberNumber, memberBytes, h, Option.getD_some, Json.isString, hpresent, Bool.and_true, if_true,
    Json.text, Text.chars_ofChars, Text.Base64.decode_encode]
  rfl

/-- A number is read back at every width that it fits into. -/
theorem HoldsAt.memberNumber (h : HoldsAt jwk name x k) : memberNumber jwk name = .ok x := by
  have hne : Sha2.toBytes k x ≠ [] := by
    rw [ne_eq, ← List.length_eq_zero_iff, Sha2.length_toBytes]
    exact Nat.ne_of_gt h.positive
  rw [memberNumber_of_bytes hne h.member, Sha2.bigEndian_toBytes, Nat.mod_eq_of_lt h.fits]

theorem memberNumber_of_holdsAt (h : ∀ jwk ∈ [a, b], ∃ k, HoldsAt jwk name x k) :
    ∀ jwk ∈ [a, b], memberNumber jwk name = .ok x := by
  intro jwk hjwk
  obtain ⟨k, hk⟩ := h jwk hjwk
  exact hk.memberNumber

/-- The key of a JWK of the type RSA is the one that its numbers make. -/
theorem ofJwk_rsa (type : jwk.get? "kty" = some (.str "RSA")) (he : memberNumber jwk "e" = .ok e)
    (hn : memberNumber jwk "n" = .ok n) : ofJwk jwk = ofRsa n e := by
  cases jwk with
  | obj ms =>
    simp only [ofJwk, type, Option.getD_some, if_true, he, hn]
    rfl
  | _ => cases type

theorem ofJwk_point (type : jwk.get? "kty" = some (.str "EC")) : ofJwk jwk = ofJwkPoint jwk := by
  have hne : Json.str "EC" ≠ Json.str "RSA" := by decide
  cases jwk with
  | obj ms => simp only [ofJwk, type, Option.getD_some, if_neg hne, if_true]
  | _ => cases type

/-- The key of a JWK that is a point of a known curve is the one that its coordinates make. -/
theorem ofJwkPoint_of_curve {t : Text} {curve : Curve} (named : jwk.get? "crv" = some (.str t))
    (known : Curve.ofJwkName? t.shown = some curve) (hx : memberNumber jwk "x" = .ok x)
    (hy : memberNumber jwk "y" = .ok y) : ofJwkPoint jwk = ofPoint curve x y := by
  simp only [ofJwkPoint, named, Option.getD_some, known, hx, hy]
  rfl

theorem ofJwkPoint_congr (curve : a.get? "crv" = b.get? "crv") (hx : memberNumber a "x" = memberNumber b "x")
    (hy : memberNumber a "y" = memberNumber b "y") : ofJwkPoint a = ofJwkPoint b := by
  simp only [ofJwkPoint, curve, hx, hy]

theorem HoldSame.ofJwk_eq (h : HoldSame a b) : ofJwk a = ofJwk b := by
  have ha : a ∈ [a, b] := List.mem_cons_self
  have hb : b ∈ [a, b] := .tail _ (.head _)
  cases h with
  | rsa type exponent modulus =>
    have he := memberNumber_of_holdsAt exponent
    have hn := memberNumber_of_holdsAt modulus
    rw [ofJwk_rsa (type a ha) (he a ha) (hn a ha), ofJwk_rsa (type b hb) (he b hb) (hn b hb)]
  | point type curve first second =>
    have hx := memberNumber_of_holdsAt first
    have hy := memberNumber_of_holdsAt second
    rw [ofJwk_point (type a ha), ofJwk_point (type b hb)]
    exact ofJwkPoint_congr curve ((hx a ha).trans (hx b hb).symm) ((hy a ha).trans (hy b hb).symm)

/-- **Numbers are read back at every width, and JWKs that hold the same numbers**, with however many zeros
in front of them, **give the same key or fail for the same reason**. -/
theorem numbers_at_any_width (a b : Json) :
    (∀ name x k, HoldsAt a name x k → memberNumber a name = .ok x) ∧ (HoldSame a b → ofJwk a = ofJwk b) :=
  ⟨fun _ _ _ h => h.memberNumber, HoldSame.ofJwk_eq⟩

/-- A point of P-521 with its coordinates at two widths; 66 bytes are the fewest that they fit into. -/
def basePoint (first second : Nat) : Json :=
  .obj [("kty", .str "EC"), ("crv", .str "P-521"),
    ("x", .str (.ofChars (Text.Base64.encode (Sha2.toBytes first Curve.p521.gx)))),
    ("y", .str (.ofChars (Text.Base64.encode (Sha2.toBytes second Curve.p521.gy))))]

theorem holdsAt_basePoint (first second : Nat) (hfirst : 66 ≤ first) (hsecond : 66 ≤ second) :
    HoldsAt (basePoint first second) "x" Curve.p521.gx first ∧
      HoldsAt (basePoint first second) "y" Curve.p521.gy second := by
  have hx : Curve.p521.gx < 256 ^ 66 := by decide
  have hy : Curve.p521.gy < 256 ^ 66 := by decide
  refine ⟨⟨by omega, ?_, rfl⟩, by omega, ?_, rfl⟩
  · exact Nat.lt_of_lt_of_le hx (Nat.pow_le_pow_right (by decide) hfirst)
  · exact Nat.lt_of_lt_of_le hy (Nat.pow_le_pow_right (by decide) hsecond)

theorem numbers_at_any_width_point :
    HoldsAt (basePoint 66 66) "x" Curve.p521.gx 66 ∧ memberNumber (basePoint 66 66) "x" = .ok Curve.p521.gx ∧
      HoldSame (basePoint 66 66) (basePoint 67 70) ∧ ofJwk (basePoint 66 66) = ofJwk (basePoint 67 70) ∧
      ofJwk (basePoint 67 70) = .ok (.ec Curve.p521 Curve.p521.gx Curve.p521.gy) := by
  obtain ⟨hx, hy⟩ := holdsAt_basePoint 66 66 (by decide) (by decide)
  obtain ⟨hx', hy'⟩ := holdsAt_basePoint 67 70 (by decide) (by decide)
  have hcurve : ∀ first second, (basePoint first second).get? "crv" = some (.str "P-521") := fun _ _ => rfl
  have hboth : ∀ {P : Json → Prop}, P (basePoint 66 66) → P (basePoint 67 70) →
      ∀ jwk ∈ [basePoint 66 66, basePoint 67 70], P jwk := fun {P} h h' => by
    simp only [List.forall_mem_cons, h, h', List.not_mem_nil, false_implies, implies_true, and_self]
  have hsame : HoldSame (basePoint 66 66) (basePoint 67 70) :=
    .point (hboth rfl rfl) ((hcurve 66 66).trans (hcurve 67 70).symm) (hboth ⟨66, hx⟩ ⟨67, hx'⟩)
      (hboth ⟨66, hy⟩ ⟨70, hy'⟩)
  obtain ⟨hread, hkeys⟩ := numbers_at_any_width (basePoint 66 66) (basePoint 67 70)
  refine ⟨hx, hread _ _ _ hx, hsame, hkeys hsame, ?_⟩
  rw [ofJwk_point rfl, ofJwkPoint_of_curve rfl (show Curve.ofJwkName? _ = some Curve.p521 by decide)
    hx'.memberNumber hy'.memberNumber]
  exact toOption_eq_some.mp (by decide +kernel)

end DidRegistry.PublicKey
