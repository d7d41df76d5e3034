import DidRegistry.Proofs.Biography.Document
import DidRegistry.Proofs.Identifier.Grammar

/-!
# Looking up the keys of a document

A key of a document is named by a DID URL, and whoever asks for it may write that name in three ways: in full,
as `#` and the fragment, or as the fragment alone.  A fragment may look like a DID, with colons and slashes in
it, but it has no `#`, so that the three never run into each other.  Whichever is used, the methods of the
document are gone through in order, and other DIDs' methods among them do not count.

## Results

* `DidDocument.methodOf_eq_ok`, `DidDocument.forall₂_methodsOf` — what the methods of a document are read
  from.
* `DidDocument.isFirst_find?` — a search from the front finds the first method with an identifier.
* `DidDocument.method?_of_fragment` — the three ways to name a key of the subject find the same method.
* `DidDocument.method?_of_listed` — a method is found by its own identifier, or one listed before it is.
* `DidDocument.method?_spellings` — **all spellings of the name of a key find the same key**.
-/

set_option autoImplicit false

namespace DidRegistry

theorem DidUrl.mark_mem_toText (u : DidUrl) : '#' ∈ (Text.ofString u.toText).chars := by
  rw [ofString_toText, Text.chars_ofChars, toChars]
  exact List.mem_append_right _ List.mem_cons_self

namespace DidDocument

/-! ## The methods of a document -/

section

variable {subject : Did} {entry : Json} {m : VerificationMethod}

/-- A method is named by the DID URL that its entry gives, if need be relative to the subject; its type
and its key are taken over as they are. -/
theorem methodOf_eq_ok (h : methodOf subject entry = .ok m) :
    (∃ id, entry.get? "id" = some id ∧ DidUrl.parse id (some subject) = .ok m.id) ∧
      controllerOf subject ((entry.get? "controller").getD .null) = .ok m.controller ∧
      m.type = (entry.get? "type").getD (.str "") ∧ m.base58 = (entry.get? "publicKeyBase58").getD .null ∧
      m.jwk = (entry.get? "publicKeyJwk").getD .null := by
  unfold methodOf at h
  split at h
  · split at h
    · cases h
    rename_i id hid
    split at h
    · cases h
    rename_i hurl
    split at h
    · cases h
    rename_i hcontroller
    cases h
    exact ⟨⟨id, hid, hurl⟩, hcontroller, rfl, rfl, rfl⟩
  · cases h

theorem forall₂_methodsOf {entries : List Json} {ms : List VerificationMethod}
    (h : methodsOf subject entries = .ok ms) :
    List.Forall₂ (fun entry m => methodOf subject entry = .ok m) entries ms := by
  induction entries generalizing ms with
  | nil =>
    cases h
    exact .nil
  | cons entry entries ih =>
    unfold methodsOf at h
    split at h
    · cases h
    rename_i m hm
    obtain ⟨rest, hrest, rfl⟩ := map_eq_ok.mp h
    exact .cons hm (ih hrest)

end

variable {v : Json} {isDeactivated : Bool} {d : DidDocument} {f : List Char} {key : Text} {u : DidUrl}

theorem parsed_subject (h : ofJson v isDeactivated = .ok d) : d.subject.Parsed := by
  obtain ⟨⟨id, -, hid⟩, -⟩ := ofJson_eq_ok h
  exact ⟨id, hid⟩

/-- The identifiers of the methods were read, if need be relative to the subject. -/
theorem parsed_method (h : ofJson v isDeactivated = .ok d) {m : VerificationMethod} (hm : m ∈ d.methods) :
    m.id.Parsed := by
  obtain ⟨-, ⟨items, -, hmethods⟩, -⟩ := ofJson_eq_ok h
  obtain ⟨i, hi, rfl⟩ := List.getElem_of_mem hm
  have hread := forall₂_methodsOf hmethods
  have hentry := hread.get (hread.length_eq ▸ hi) hi
  obtain ⟨⟨id, -, hid⟩, -⟩ := methodOf_eq_ok hentry
  exact ⟨id, some d.subject, fun _ hbase => Option.some.inj hbase ▸ parsed_subject h, hid⟩

/-! ## Searching -/

/-- What is found is the first method with the identifier, or nothing when there is none. -/
inductive IsFirst (d : DidDocument) (id : DidUrl) : Option VerificationMethod → Prop where
  | found {before after : List VerificationMethod} {m : VerificationMethod}
      (methods : d.methods = before ++ m :: after) (first : ∀ x ∈ before, x.id ≠ id) (named : m.id = id) :
      IsFirst d id (some m)
  | absent (other : ∀ x ∈ d.methods, x.id ≠ id) : IsFirst d id none

/-- A search from the front finds the first method with an identifier. -/
theorem isFirst_find? (d : DidDocument) (id : DidUrl) :
    d.IsFirst id (d.methods.find? fun m => m.id = id) := by
  cases hfind : d.methods.find? fun m => m.id = id with
  | none => exact .absent fun x hx => by simpa using List.find?_eq_none.mp hfind x hx
  | some m =>
    obtain ⟨named, before, after, methods, first⟩ := List.find?_eq_some_iff_append.mp hfind
    exact .found methods (fun x hx => by simpa using first x hx) (of_decide_eq_true named)

theorem method?_eq (h : DidUrl.parse (.str (asReference key)) (some d.subject) = .ok u) :
    d.method? key = .ok (d.methods.find? fun m => m.id = u) := by
  unfold method?
  rw [h]
  rfl

/-! ## Spellings -/

theorem asReference_of_mem (h : '#' ∈ key.chars) : asReference key = key :=
  if_pos (List.contains_iff_mem.mpr h)

theorem asReference_fragment (h : IsFragment f) : asReference (.ofChars f) = .ofChars ('#' :: f) := by
  have hmark : (Text.ofChars f).chars.contains '#' = false := by
    rw [Text.chars_ofChars, ← Bool.not_eq_true, List.contains_iff_mem]
    exact fun hmem => absurd (h.2 _ hmem) (by decide)
  unfold asReference
  rw [hmark]
  rfl

/-- The ways to name the key of the subject with a fragment: the fragment, `#` and the fragment, and the
DID URL in full. -/
def spellings (d : DidDocument) (f : List Char) : List Text :=
  [.ofChars f, .ofChars ('#' :: f), .ofString (DidUrl.toText ⟨d.subject, .ofList f⟩)]

theorem method?_toText (h : u.Parsed) : d.method? u.toText = .ok (d.methods.find? fun m => m.id = u) := by
  refine method?_eq ?_
  rw [asReference_of_mem u.mark_mem_toText]
  exact h.parse_toText _

/-- **The three ways to name a key of the subject find the same method**, the first one of that name. -/
theorem method?_of_fragment (hd : d.subject.Parsed) (hf : IsFragment f) :
    ∃ found, d.IsFirst ⟨d.subject, .ofList f⟩ found ∧ ∀ key ∈ d.spellings f, d.method? key = .ok found := by
  have hrelative : DidUrl.parse (.str (.ofChars ('#' :: f))) (some d.subject) = .ok ⟨d.subject, .ofList f⟩ :=
    (DidUrl.Spelled.relative rfl hf).parse_eq
  have hparsed : DidUrl.Parsed ⟨d.subject, .ofList f⟩ :=
    ⟨_, _, fun _ hbase => Option.some.inj hbase ▸ hd, hrelative⟩
  have hmark : '#' ∈ (Text.ofChars ('#' :: f)).chars := by
    rw [Text.chars_ofChars]
    exact List.mem_cons_self
  refine ⟨_, d.isFirst_find? _, ?_⟩
  simp only [spellings, List.forall_mem_cons]
  refine ⟨?bare, ?relative, ?full, by simp⟩
  case bare => exact method?_eq (by rwa [asReference_fragment hf])
  case relative => exact method?_eq (by rwa [asReference_of_mem hmark])
  case full => exact method?_toText hparsed

/-- A method that a document lists is found by its own identifier, or one that is listed before it and has the
same identifier is. -/
theorem method?_of_listed {m : VerificationMethod} (hid : m.id.Parsed) (hm : m ∈ d.methods) :
    ∃ found, d.method? m.id.toText = .ok (some found) ∧ d.IsFirst m.id (some found) ∧ found.id = m.id := by
  have hfound := method?_toText (d := d) hid
  have hfirst := d.isFirst_find? m.id
  generalize d.methods.find? (fun x => x.id = m.id) = found at hfound hfirst
  cases hfirst with
  | @found _ _ found methods first named => exact ⟨found, hfound, .found methods first named, named⟩
  | absent other => exact absurd rfl (other m hm)

/-- **All spellings of the name of a key find the same key.**  Of a document that was read, the fragment,
`#` and the fragment, and the DID URL of the subject in full find the first method of that name in the
order of the document, or all three find none when there is none; and whatever DID a method is listed
under, its identifier finds a method with that identifier. -/
theorem method?_spellings (h : ofJson v isDeactivated = .ok d) :
    (∀ f, IsFragment f →
      ∃ found, d.IsFirst ⟨d.subject, .ofList f⟩ found ∧ ∀ key ∈ d.spellings f, d.method? key = .ok found) ∧
      ∀ m ∈ d.methods,
        ∃ found, d.method? m.id.toText = .ok (some found) ∧ d.IsFirst m.id (some found) ∧ found.id = m.id :=
  ⟨fun _ hf => method?_of_fragment (parsed_subject h) hf,
    fun _ hm => method?_of_listed (parsed_method h hm) hm⟩

/-- The value of a document with these identifiers of methods. -/
def keyed (ids : List Text) : Json :=
  .obj [("id", .str "did:example:123"),
    ("verificationMethod", .arr (ids.map fun id => .obj [("id", .str id)]))]

/-- A method with this identifier and nothing else, in that document. -/
def bare (id : DidUrl) : VerificationMethod := ⟨id, .str "", ⟨"example", "123"⟩, .null, .null⟩

/-- A document whose second and fourth methods have the same name, written in two ways, behind one of another
DID with the same fragment.  The fragment looks like a DID. -/
theorem method?_spellings_doubled :
    ∃ d, ofJson (keyed ["did:example:456#did:x/k?1", "#did:x/k?1", "#other", "did:example:123#did:x/k?1"])
      false =
        .ok d ∧
      (∀ key ∈ d.spellings "did:x/k?1".toList,
        d.method? key = .ok (some (bare ⟨⟨"example", "123"⟩, "did:x/k?1"⟩))) ∧
      ∃ found, d.method? "did:example:456#did:x/k?1" = .ok (some found) ∧
        found.id = ⟨⟨"example", "456"⟩, "did:x/k?1"⟩ := by
  let methods := [bare ⟨⟨"example", "456"⟩, "did:x/k?1"⟩, bare ⟨⟨"example", "123"⟩, "did:x/k?1"⟩,
    bare ⟨⟨"example", "123"⟩, "other"⟩, bare ⟨⟨"example", "123"⟩, "did:x/k?1"⟩]
  have hread : ofJson (keyed ["did:example:456#did:x/k?1", "#did:x/k?1", "#other",
    "did:example:123#did:x/k?1"])
      false = .ok ⟨⟨"example", "123"⟩, methods, [], false⟩ := toOption_eq_some.mp (by decide +kernel)
  obtain ⟨hnamed, hlisted⟩ := method?_spellings hread
  have hfragment : IsFragment "did:x/k?1".toList := ⟨by decide, List.all_eq_true.mp (by decide)⟩
  obtain ⟨found, -, hfound⟩ := hnamed _ hfragment
  refine ⟨_, hread, fun key hkey => ?_, ?_⟩
  · have hbare := hfound "did:x/k?1" (by decide +kernel)
    rw [hfound key hkey, ← hbare]
    exact toOption_eq_some.mp (by decide +kernel)
  · obtain ⟨found, hfound, -, hid⟩ := hlisted (bare ⟨⟨"example", "456"⟩, "did:x/k?1"⟩) List.mem_cons_self
    exact ⟨found, hfound, hid⟩

end DidDocument

end DidRegistry
