import DidRegistry.Identifier
import DidRegistry.Proofs.Outcome
import DidRegistry.Proofs.Text.Blank

/-!
# Identifiers and their texts

What the texts of identifiers are made of.  The characters of a DID are graphic ASCII characters, none
of them the mark `#` that parts a DID URL, so that white space around a DID and a fragment behind it
never run into it.  So an identifier that was read and its text determine each other, and a DID URL that
was read relative to a base is read back without it.

## Results

* `splitAtFirst_eq_some` — what is parted at a mark is the text itself, with no mark in the first part.
* `Did.toChars_of_ofChars?` — a DID is written as the text that it was read from.
* `Did.parse_toText` — **a DID that was read from a value is read back from its text**.
* `Did.toText_of_parse` — its text is the one that it was read from, without the white space around it.
* `Did.mark_not_mem`, `DidUrl.mark_mem` — a text that names a DID has no `#`, and one that names a DID URL
  has one.
* `DidUrl.ofText_eq_ok_iff` — what reading a DID URL comes to.
* `DidUrl.Parsed.parse_toText` — **a DID URL that was read is read back from its text**, whatever the base.
* `identifiers_readBack` — **identifiers that were read are equal exactly when their texts are**.
-/

set_option autoImplicit false

namespace DidRegistry

/-- What is parted at a mark is the text itself, and the first part has no mark in it. -/
theorem splitAtFirst_eq_some {α : Type} [DecidableEq α] {mark : α} {s a r : List α}
    (h : splitAtFirst mark s = some (a, r)) : s = a ++ mark :: r ∧ mark ∉ a := by
  induction s generalizing a with
  | nil => cases h
  | cons c s ih =>
    unfold splitAtFirst at h
    split at h
    · rename_i hc
      cases h
      exact ⟨by rw [hc]; rfl, List.not_mem_nil⟩
    · rename_i hc
      obtain ⟨⟨b, t⟩, hs, he⟩ := Option.map_eq_some_iff.mp h
      cases he
      obtain ⟨rfl, hm⟩ := ih hs
      exact ⟨rfl, fun hx => (List.mem_cons.mp hx).elim (fun he => hc he.symm) hm⟩

namespace IdentifierError

/-- All that the message shows are texts, which can be shown whatever they are. -/
def ShowsTexts (e : IdentifierError) : Prop := ∀ v ∈ e.shown, ∃ t, v = .str t

variable {e : IdentifierError}

theorem ShowsTexts.one (t : Text) (h : e.shown = [.str t]) : e.ShowsTexts := fun v hv => by
  rw [h] at hv
  exact ⟨t, List.mem_singleton.mp hv⟩

theorem ShowsTexts.isShown (h : e.ShowsTexts) : e.isShown = true :=
  List.all_eq_true.mpr fun v hv => by
    obtain ⟨t, rfl⟩ := h v hv
    rfl

end IdentifierError

/-! ## Graphic characters -/

/-- A graphic character of ASCII. -/
def IsGraphic (c : Char) : Prop := 0x20 < c.toNat ∧ c.toNat < 0x7f

theorem IsGraphic.not_blank {c : Char} (h : IsGraphic c) : Text.isBlank c = false := by
  obtain ⟨hl, hu⟩ := h
  simp only [Text.isBlank, Bool.or_eq_false_iff, Bool.and_eq_false_iff, decide_eq_false_iff_not,
    beq_eq_false_iff_ne, ne_eq]
  omega

theorem isGraphic_of_range {low high c : Char} (hl : 0x20 < low.toNat) (hu : high.toNat < 0x7f)
    (h : low ≤ c ∧ c ≤ high) : IsGraphic c := by
  have h₁ : low.toNat ≤ c.toNat := UInt32.le_iff_toNat_le.mp h.1
  have h₂ : c.toNat ≤ high.toNat := UInt32.le_iff_toNat_le.mp h.2
  exact ⟨by omega, by omega⟩

theorem isGraphic_of_isMethodChar {c : Char} (h : isMethodChar c = true) : IsGraphic c := by
  simp only [isMethodChar, Bool.or_eq_true, Bool.and_eq_true, decide_eq_true_eq] at h
  rcases h with h | h <;> exact isGraphic_of_range (by decide) (by decide) h

theorem isGraphic_of_isSegmentChar {c : Char} (h : isSegmentChar c = true) : IsGraphic c := by
  simp only [isSegmentChar, Bool.or_eq_true, Bool.and_eq_true, decide_eq_true_eq, beq_iff_eq] at h
  rcases h with (((((h | h) | h) | rfl) | rfl) | rfl) | rfl
  iterate 3 exact isGraphic_of_range (by decide) (by decide) h
  iterate 4 exact ⟨by decide, by decide⟩

theorem isGraphic_of_isFragmentChar {c : Char} (h : isFragmentChar c = true) : IsGraphic c := by
  simp only [isFragmentChar, Bool.or_eq_true, Bool.and_eq_true, decide_eq_true_eq,
    List.contains_iff_mem] at h
  rcases h with ((h | h) | h) | h
  iterate 3 exact isGraphic_of_range (by decide) (by decide) h
  have hall : (fragmentMarks.all fun m => 0x20 < m.toNat && m.toNat < 0x7f) = true := by decide
  simpa [IsGraphic] using List.all_eq_true.mp hall c h

theorem mem_isSegments {inSegment : Bool} {s : List Char} (h : isSegments inSegment s = true) :
    ∀ c ∈ s, c = ':' ∨ isSegmentChar c = true := by
  induction s generalizing inSegment with
  | nil => intro c hc; cases hc
  | cons x r ih =>
    intro c hc
    unfold isSegments at h
    split at h
    · rename_i hx
      rw [Bool.and_eq_true] at h
      rcases List.mem_cons.mp hc with rfl | hc
      · exact .inl hx
      · exact ih h.2 c hc
    · rw [Bool.and_eq_true] at h
      rcases List.mem_cons.mp hc with rfl | hc
      · exact .inr h.1
      · exact ih h.2 c hc

/-! ## White space around a text -/

namespace Text

theorem strip_ofChars {cs : List Char} (h : ∀ c ∈ cs, IsGraphic c) : (ofChars cs).strip = ofChars cs := by
  have hp : ∀ p ∈ (ofChars cs).points, isBlank p.toChar = false := by
    intro p hp
    obtain ⟨c, hc, rfl⟩ := List.mem_map.mp hp
    exact (h c hc).not_blank
  exact congrArg Text.mk (trim_eq_self (fun p hh => hp p (List.mem_of_mem_head? hh))
    (fun p hl => hp p (List.mem_of_getLast? hl)))

theorem ofChars_graphic {t : Text} (h : ∀ c ∈ t.chars, IsGraphic c) : ofChars t.chars = t :=
  ofChars_chars fun hm => absurd (h _ hm).2 (by decide)

theorem mem_chars {t : Text} {c : Char} : c ∈ t.chars ↔ ∃ p ∈ t.points, p.toChar = c := List.mem_map

theorem mem_strip_chars {t : Text} {c : Char} (hc : c ∈ t.chars) (hb : isBlank c = false) :
    c ∈ t.strip.chars := by
  obtain ⟨p, hp, rfl⟩ := mem_chars.mp hc
  exact mem_chars.mpr ⟨p, mem_trim hp hb, rfl⟩

end Text

/-! ## DIDs -/

namespace Did

/-- A DID is written as the text that it was read from. -/
theorem toChars_of_ofChars? {s : List Char} {d : Did} (h : ofChars? s = some d) : d.toChars = s := by
  unfold ofChars? at h
  split at h
  · split at h
    · rename_i r method id hs
      split at h
      · cases h
        rw [(splitAtFirst_eq_some hs).1]
        simp [toChars]
      · cases h
    · cases h
  · cases h

theorem mem_toChars {s : List Char} {d : Did} (h : ofChars? s = some d) :
    ∀ c ∈ d.toChars, IsGraphic c ∧ c ≠ '#' := by
  unfold ofChars? at h
  split at h
  · split at h
    · rename_i r method id hs
      split at h
      · rename_i hv
        cases h
        simp only [Bool.and_eq_true, List.all_eq_true] at hv
        have colon : IsGraphic ':' ∧ ':' ≠ '#' := ⟨⟨by decide, by decide⟩, by decide⟩
        intro c hc
        simp only [toChars, String.toList_ofList, List.mem_cons, List.mem_append] at hc
        rcases hc with rfl | rfl | rfl | rfl | hm | rfl | hi
        iterate 3 exact ⟨⟨by decide, by decide⟩, by decide⟩
        · exact colon
        · refine ⟨isGraphic_of_isMethodChar (hv.1.2 c hm), ?_⟩
          rintro rfl
          exact absurd (hv.1.2 _ hm) (by decide)
        · exact colon
        · rcases mem_isSegments hv.2 c hi with rfl | hc
          · exact colon
          · refine ⟨isGraphic_of_isSegmentChar hc, ?_⟩
            rintro rfl
            exact absurd hc (by decide)
      · cases h
    · cases h
  · cases h

/-- The DID was read from some value. -/
def Parsed (d : Did) : Prop := ∃ v, parse v = .ok d

theorem ofString_toText (d : Did) : Text.ofString d.toText = Text.ofChars d.toChars := by
  rw [Text.ofString, toText, String.toList_ofList]

theorem showsTexts_of_ofText {t : Text} {e : IdentifierError} (h : ofText t = .error e) : e.ShowsTexts := by
  unfold ofText at h
  split at h
  · cases h
  · cases h
    exact .one _ rfl

theorem parse_eq_ok {v : Json} {d : Did} (h : parse v = .ok d) :
    ∃ t, v = .str t ∧ ofChars? t.strip.chars = some d := by
  unfold parse at h
  split at h
  · rename_i t
    unfold ofText at h
    split at h
    · rename_i hd
      cases h
      exact ⟨t, rfl, hd⟩
    · cases h
  · cases h

/-- **A DID that was read from a value is read back from its text.** -/
theorem parse_toText {v : Json} {d : Did} (h : parse v = .ok d) : parse (.str d.toText) = .ok d := by
  obtain ⟨t, -, hd⟩ := parse_eq_ok h
  have hs : (Text.ofString d.toText).strip = Text.ofChars d.toChars := by
    rw [ofString_toText]
    exact Text.strip_ofChars fun c hc => (mem_toChars hd c hc).1
  show ofText (Text.ofString d.toText) = .ok d
  unfold ofText
  rw [hs, Text.chars_ofChars, ofChars?_toChars hd]

/-- The text of a DID is the one that it was read from, without the white space around it. -/
theorem toText_of_parse {t : Text} {d : Did} (h : parse (.str t) = .ok d) :
    Text.ofString d.toText = t.strip := by
  obtain ⟨u, hu, hd⟩ := parse_eq_ok h
  cases hu
  have hchars := toChars_of_ofChars? hd
  rw [ofString_toText, hchars]
  exact Text.ofChars_graphic fun c hc => (mem_toChars hd c (hchars ▸ hc)).1

theorem Parsed.parse_toText {d : Did} (h : d.Parsed) : parse (.str d.toText) = .ok d := by
  obtain ⟨v, hv⟩ := h
  exact Did.parse_toText hv

theorem Parsed.mem_toChars {d : Did} (h : d.Parsed) : ∀ c ∈ d.toChars, IsGraphic c ∧ c ≠ '#' := by
  obtain ⟨v, hv⟩ := h
  obtain ⟨t, -, hd⟩ := parse_eq_ok hv
  exact Did.mem_toChars hd

/-- A text that names a DID has no `#` in it. -/
theorem mark_not_mem {t : Text} {d : Did} (h : parse (.str t) = .ok d) : '#' ∉ t.chars := by
  obtain ⟨u, hu, hd⟩ := parse_eq_ok h
  cases hu
  intro hm
  have hs := Text.mem_strip_chars hm (by decide)
  rw [← toChars_of_ofChars? hd] at hs
  exact (mem_toChars hd _ hs).2 rfl

end Did

/-- A fragment: characters for fragments, one at least. -/
def IsFragment (s : List Char) : Prop := s ≠ [] ∧ ∀ c ∈ s, isFragmentChar c = true

namespace DidUrl

theorem showsTexts_of_parse {t : Text} {base : Option Did} {e : IdentifierError}
    (h : parse (.str t) base = .error e) : e.ShowsTexts := by
  simp only [parse] at h
  split at h
  · cases h
    exact .one _ rfl
  · unfold ofText at h
    dsimp only at h
    split at h
    · cases h
      exact .one _ rfl
    split at h
    · cases h
      exact .one _ rfl
    split at h
    · cases h
      exact .one _ rfl
    split at h
    · split at h
      · cases h
      · cases h
        exact .one _ rfl
    · split at h
      · cases h
      · rename_i hdid
        cases h
        exact Did.showsTexts_of_ofText hdid

theorem parse_eq_ok {v : Json} {base : Option Did} {u : DidUrl} (h : parse v base = .ok u) :
    ∃ t, v = .str t ∧ t.isEmpty = false ∧ ofText t base = .ok u := by
  unfold parse at h
  split at h
  · rename_i t
    split at h
    · cases h
    · rename_i hn
      exact ⟨t, rfl, by simpa using hn, h⟩
  · cases h

/-- A text that names a DID URL has a `#` in it. -/
theorem mark_mem {t : Text} {base : Option Did} {u : DidUrl} (h : parse (.str t) base = .ok u) :
    '#' ∈ t.chars := by
  obtain ⟨t', ht, -, h⟩ := parse_eq_ok h
  cases ht
  unfold ofText at h
  split at h
  · cases h
  · rename_i owner fragment hs
    have hm : Point.char '#' ∈ t.strip.points := by
      rw [(splitAtFirst_eq_some hs).1]
      simp
    exact Text.mem_chars.mpr ⟨_, Text.mem_of_mem_trim hm, rfl⟩

/-- The DID URL was read from some value, if need be relative to a DID that was read. -/
def Parsed (u : DidUrl) : Prop :=
  ∃ v base, (∀ d, base = some d → d.Parsed) ∧ parse v base = .ok u

theorem ofString_toText (u : DidUrl) : Text.ofString u.toText = Text.ofChars u.toChars := by
  rw [Text.ofString, toText, String.toList_ofList]

/-- **What reading a DID URL comes to.**  The text is parted at its first mark; behind it stands the fragment,
and in front of it a DID or nothing. -/
theorem ofText_eq_ok_iff {t : Text} {base : Option Did} {u : DidUrl} :
    ofText t base = .ok u ↔
      ∃ owner fragment, splitAtFirst (.char '#') t.strip.points = some (owner, fragment) ∧
        IsFragment (Text.chars ⟨fragment⟩) ∧ u.fragment = .ofList (Text.chars ⟨fragment⟩) ∧
        (owner = [] ∧ base = some u.did ∨ owner ≠ [] ∧ Did.ofText ⟨owner⟩ = .ok u.did) := by
  obtain ⟨did, urlFragment⟩ := u
  unfold ofText
  constructor
  · intro h
    split at h
    · cases h
    rename_i owner fragment hs
    dsimp only at h
    split at h
    · cases h
    rename_i hempty
    split at h
    · cases h
    rename_i hall
    have htail : IsFragment (Text.chars ⟨fragment⟩) := by
      simp only [List.isEmpty_iff] at hempty
      exact ⟨hempty, List.all_eq_true.mp (by simpa using hall)⟩
    split at h
    · rename_i howner
      split at h
      · cases h
        exact ⟨owner, fragment, hs, htail, rfl, .inl ⟨List.isEmpty_iff.mp howner, rfl⟩⟩
      · cases h
    · rename_i howner
      split at h
      · rename_i d hd
        cases h
        exact ⟨owner, fragment, hs, htail, rfl, .inr ⟨fun he => howner (List.isEmpty_iff.mpr he), hd⟩⟩
      · cases h
  · rintro ⟨owner, fragment, hs, ⟨hne, hchars⟩, rfl, howner⟩
    have hempty : (Text.chars ⟨fragment⟩).isEmpty = false := List.isEmpty_eq_false_iff.mpr hne
    have hall : (Text.chars ⟨fragment⟩).all isFragmentChar = true := List.all_eq_true.mpr hchars
    rw [hs]
    simp only [hempty, hall, Bool.not_true, Bool.false_eq_true, if_false]
    rcases howner with ⟨rfl, rfl⟩ | ⟨hnamed, hd⟩
    · rfl
    · rw [if_neg (fun he => hnamed (List.isEmpty_iff.mp he)), hd]

theorem parts_of_parse {v : Json} {base : Option Did} {u : DidUrl} (h : parse v base = .ok u) :
    (u.did.Parsed ∨ base = some u.did) ∧ IsFragment u.fragment.toList := by
  obtain ⟨t, rfl, -, h⟩ := parse_eq_ok h
  obtain ⟨owner, fragment, -, tail, hu, howner⟩ := ofText_eq_ok_iff.mp h
  refine ⟨?_, by rwa [hu, String.toList_ofList]⟩
  rcases howner with ⟨-, hbase⟩ | ⟨-, hd⟩
  · exact .inr hbase
  · exact .inl ⟨.str ⟨owner⟩, hd⟩

theorem Parsed.parts {u : DidUrl} (h : u.Parsed) : u.did.Parsed ∧ IsFragment u.fragment.toList := by
  obtain ⟨v, base, hbase, hv⟩ := h
  obtain ⟨hdid, hfragment⟩ := parts_of_parse hv
  exact ⟨hdid.elim id (hbase _), hfragment⟩

/-- **A DID URL that was read is read back from its text**, whatever the base. -/
theorem Parsed.parse_toText {u : DidUrl} (h : u.Parsed) (base : Option Did) :
    parse (.str u.toText) base = .ok u := by
  obtain ⟨hdid, hne, hfragment⟩ := h.parts
  have hgraphic : ∀ c ∈ u.toChars, IsGraphic c := by
    intro c hc
    simp only [toChars, List.mem_append, List.mem_cons] at hc
    rcases hc with hc | rfl | hc
    · exact (hdid.mem_toChars c hc).1
    · exact ⟨by decide, by decide⟩
    · exact isGraphic_of_isFragmentChar (hfragment c hc)
  have hsplit : splitAtFirst (.char '#') (Text.ofString u.toText).strip.points =
      some (u.did.toChars.map .char, u.fragment.toList.map .char) := by
    rw [ofString_toText, Text.strip_ofChars hgraphic]
    simp only [Text.ofChars, toChars, List.map_append, List.map_cons]
    refine splitAtFirst_append (fun p hp he => ?_) _
    obtain ⟨c, hc, rfl⟩ := List.mem_map.mp hp
    exact (hdid.mem_toChars c hc).2 (Point.char.inj he)
  have howner : Did.ofText ⟨u.did.toChars.map .char⟩ = .ok u.did := by
    have hread := hdid.parse_toText
    rwa [Did.ofString_toText] at hread
  have hchars : Text.chars ⟨u.fragment.toList.map .char⟩ = u.fragment.toList := Text.chars_ofChars _
  have hpresent : (Text.ofString u.toText).isEmpty = false := by
    rw [ofString_toText]
    rfl
  have hempty : u.fragment.toList.isEmpty = false := by simpa using hne
  have hall : u.fragment.toList.all isFragmentChar = true := List.all_eq_true.mpr hfragment
  have hnamed : (u.did.toChars.map Point.char).isEmpty = false := rfl
  simp only [parse, hpresent, ofText, hsplit, hchars, hempty, hall, hnamed, howner, Bool.not_true,
    Bool.false_eq_true, if_false, String.ofList_toList]

end DidUrl

/-! ## Texts and values -/

theorem eq_iff_of_readBack {α ε : Type} (text : α → String) (read : String → Except ε α) {x y : α}
    (hx : read (text x) = .ok x) (hy : read (text y) = .ok y) : x = y ↔ text x = text y := by
  refine ⟨congrArg text, fun ht => ?_⟩
  rw [ht, hy] at hx
  exact (Except.ok.inj hx).symm

/-- **Identifiers that were read and their texts determine each other.**  A DID and a DID URL are read back
from their texts, a DID URL whatever the base, so that they are equal exactly when their texts are; and a DID
is written as the text that it was read from, without the white space around it. -/
theorem identifiers_readBack :
    (∀ d : Did, d.Parsed → Did.parse (.str d.toText) = .ok d) ∧
      (∀ u : DidUrl, u.Parsed → ∀ base, DidUrl.parse (.str u.toText) base = .ok u) ∧
      (∀ d e : Did, d.Parsed → e.Parsed → (d = e ↔ d.toText = e.toText)) ∧
      (∀ u w : DidUrl, u.Parsed → w.Parsed → (u = w ↔ u.toText = w.toText)) ∧
      ∀ (t : Text) (d : Did), Did.parse (.str t) = .ok d → Text.ofString d.toText = t.strip := by
  refine ⟨fun d hd => hd.parse_toText, fun u hu => hu.parse_toText, fun d e hd he => ?_,
    fun u w hu hw => ?_, fun t d => Did.toText_of_parse⟩
  · exact eq_iff_of_readBack Did.toText (fun s => Did.parse (.str s)) hd.parse_toText he.parse_toText
  · exact eq_iff_of_readBack DidUrl.toText (fun s => DidUrl.parse (.str s) none) (hu.parse_toText none)
      (hw.parse_toText none)

/-- A relative DID URL with white space around it, and a fragment that looks like a path. -/
theorem identifiers_readBack_relative :
    ∃ d u, Did.parse (.str " did:elastos:a:b\n") = .ok d ∧
      DidUrl.parse (.str "#keys/1?did:x:y ") (some d) = .ok u ∧
      DidUrl.parse (.str u.toText) none = .ok u ∧ Text.ofString d.toText = "did:elastos:a:b" := by
  have hd : Did.parse (.str " did:elastos:a:b\n") = .ok ⟨"elastos", "a:b"⟩ :=
    toOption_eq_some.mp (by decide +kernel)
  have hu : DidUrl.parse (.str "#keys/1?did:x:y ") (some ⟨"elastos", "a:b"⟩) =
      .ok ⟨⟨"elastos", "a:b"⟩, "keys/1?did:x:y"⟩ := toOption_eq_some.mp (by decide +kernel)
  obtain ⟨-, hread, -, -, hstrip⟩ := identifiers_readBack
  have hbase : ∀ d, some (⟨"elastos", "a:b"⟩ : Did) = some d → d.Parsed := by
    rintro _ ⟨⟩
    exact ⟨_, hd⟩
  exact ⟨_, _, hd, hu, hread _ ⟨_, _, hbase, hu⟩ none, (hstrip _ _ hd).trans (by decide +kernel)⟩

end DidRegistry
