import DidRegistry.Platform.Usual
import DidRegistry.Proofs.Biography.WellFormed
import DidRegistry.Proofs.Identifier.Grammar

/-!
# The subject of a biography and its identifier

A biography keeps its subject as the text that it was given, and its entries are held against that text;
which identifier the text is, is asked for only where an identifier is needed.  So the two may differ: the
text may have white space around it, and the text of the identifier has none.  Nothing else sets them apart.

## Results

* `Biography.identifierOf_eq_strip` — the identifier that a text names is written as that text, stripped.
* `Biography.subject_text` — a biography that was read has a text for a subject, and an identifier.
* `Biography.identity_eq_strip` — **the identifier of a biography that was read is its subject without the
  white space around it**, so that biographies of one identifier have one subject but for that white
  space.
-/

set_option autoImplicit false

namespace DidRegistry

/-- There is no white space between the DID and the mark of a subject that is a DID URL. -/
def Variety.IsTight : Variety → Text → Prop
  | .did, _ => True
  | .credential, t => ¬∃ u, DidUrl.Gapped t.strip u

theorem Variety.isTight_of_toText {t : Text} {u : DidUrl} (h : DidUrl.parse (.str t) none = .ok u)
    (hwritten : Text.ofString u.toText = t.strip) : Variety.credential.IsTight t := by
  rintro ⟨w, hw⟩
  obtain rfl : u = w := Except.ok.inj (h.symm.trans hw.read)
  exact hw.toText_ne hwritten

namespace Biography

variable {variety : Variety} {t : Text} {s : String}

/-- The identifier that a text names is written as that text, without the white space around it. -/
theorem identifierOf_eq_strip (h : identifierOf variety (.str t) = .ok s) (tight : variety.IsTight t) :
    Text.ofString s = t.strip := by
  cases variety with
  | did =>
    obtain ⟨d, hd, rfl⟩ := map_eq_ok.mp h
    exact Did.toText_of_parse hd
  | credential =>
    obtain ⟨u, hu, rfl⟩ := map_eq_ok.mp h
    rcases DidUrl.parse_eq_ok_iff.mp hu with hspelled | hgapped
    · exact hspelled.toText_eq
    · exact (tight ⟨u, hgapped⟩).elim

theorem identity_eq_ok_iff {b : Biography} (hs : b.subject = .str t) :
    b.identity = .ok s ↔ identifierOf b.variety (.str t) = .ok s := by
  unfold identity
  rw [hs]
  exact mapError_eq_ok

/-- A biography that was read has a text for a subject, and that text names an identifier. -/
theorem subject_text [Platform] {v : Json} {b : Biography} (h : ofJson variety v = .ok b) :
    ∃ t s, b.subject = .str t ∧ identifierOf variety (.str t) = .ok s ∧ b.identity = .ok s := by
  obtain ⟨rfl, hcheck⟩ := ofJson_eq_ok h
  obtain ⟨t, owner, ht, ho, -⟩ := (check_eq_ok_iff.mp hcheck).entries
  obtain ⟨s, hs⟩ := identifierOf_eq_ok_iff.mpr ⟨t, owner, rfl, ho⟩
  exact ⟨t, s, ht, hs, (identity_eq_ok_iff ht).mpr hs⟩

/-- **The identifier of a biography that was read is its subject without the white space around it.**  It
is the subject itself exactly when there is none, and biographies with the same identifier have the same
subject but for that white space. -/
theorem identity_eq_strip [Platform] {v : Json} {b : Biography} (h : ofJson variety v = .ok b) :
    ∃ t s, b.subject = .str t ∧ b.identity = .ok s ∧
      (variety.IsTight t → Text.ofString s = t.strip ∧ (Text.ofString s = t ↔ t.strip = t) ∧
        ∀ (w : Json) (c : Biography) (t' : Text), ofJson variety w = .ok c → c.subject = .str t' →
          variety.IsTight t' → c.identity = .ok s → t'.strip = t.strip) := by
  obtain ⟨t, s, ht, hs, hidentity⟩ := subject_text h
  refine ⟨t, s, ht, hidentity, fun tight => ?_⟩
  have htext := identifierOf_eq_strip hs tight
  refine ⟨htext, by rw [htext], fun w c t' hc ht' tight' hidentity' => ?_⟩
  obtain ⟨rfl, -⟩ := ofJson_eq_ok hc
  rw [← htext]
  exact (identifierOf_eq_strip ((identity_eq_ok_iff ht').mp hidentity') tight').symm

/-- The value of a biography whose subject is not found. -/
def notFoundValue (variety : Variety) (subject : Text) : Json :=
  .obj [(Text.ofString variety.subjectKey, .str subject), ("status", .int 3)]

/-- The biography that it gives. -/
def absent (variety : Variety) (subject : Text) : Biography := ⟨variety, .str subject, .notFound, []⟩

section

attribute [local instance] Platform.usual

/-- A credential with white space around its identifier. -/
theorem identity_eq_strip_credential :
    ofJson .credential (notFoundValue .credential "\tdid:example:123#diploma \n") =
        .ok (absent .credential "\tdid:example:123#diploma \n") ∧
      Variety.credential.IsTight "\tdid:example:123#diploma \n" ∧
      ∃ s, (absent .credential "\tdid:example:123#diploma \n").identity = .ok s ∧
        Text.ofString s = "did:example:123#diploma" := by
  have hread : ofJson .credential (notFoundValue .credential "\tdid:example:123#diploma \n") =
      .ok (absent .credential "\tdid:example:123#diploma \n") := toOption_eq_some.mp (by decide +kernel)
  have hparse : DidUrl.parse (.str "\tdid:example:123#diploma \n") none =
      .ok ⟨⟨"example", "123"⟩, "diploma"⟩ := toOption_eq_some.mp (by decide +kernel)
  have htight : Variety.credential.IsTight "\tdid:example:123#diploma \n" :=
    Variety.isTight_of_toText hparse (by decide +kernel)
  have hstripped : Text.strip "\tdid:example:123#diploma \n" = "did:example:123#diploma" := by decide +kernel
  obtain ⟨t, s, ht, hs, hstrip⟩ := identity_eq_strip hread
  cases ht
  obtain ⟨htext, -⟩ := hstrip htight
  exact ⟨hread, htight, s, hs, htext.trans hstripped⟩

/-- **White space stays in the subject**: two biographies are read that have the same identifier and different
subjects. -/
theorem not_identity_padded :
    ofJson .did (notFoundValue .did " did:example:123") = .ok (absent .did " did:example:123") ∧
      ofJson .did (notFoundValue .did "did:example:123") = .ok (absent .did "did:example:123") ∧
      (absent .did " did:example:123").identity = .ok "did:example:123" ∧
      (absent .did "did:example:123").identity = .ok "did:example:123" ∧
      (absent .did " did:example:123").subject ≠ .str "did:example:123" :=
  ⟨toOption_eq_some.mp (by decide +kernel), toOption_eq_some.mp (by decide +kernel),
    toOption_eq_some.mp (by decide +kernel), toOption_eq_some.mp (by decide +kernel), by decide +kernel⟩

end

end Biography

end DidRegistry
