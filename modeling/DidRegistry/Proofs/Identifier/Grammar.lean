import DidRegistry.Proofs.Identifier

/-!
# The grammar of identifiers

What the text of an identifier is made of, said by its parts and not by how it is read: a DID is `did:`, a
method, a colon and segments with colons between them; a DID URL is a DID or, relative to a base, nothing,
then `#` and a fragment.  White space around the text does not count.

The DID in front of the mark is read like any other DID, so that white space around it does not count either.
In front of it there is none left, but between it and the mark there may be: of the texts that are read as
DID URLs these are the only ones outside the grammar.

## Results

* `isSegments_iff` — segments are told by one pass over the characters.
* `Did.ofChars?_eq_some_iff` — **a DID is read from the characters that spell it, and from no others**.
* `DidUrl.parse_eq_ok_iff` — **which texts are read as DID URLs, and as which**.
* `DidUrl.readExactly_iff` — **DID URLs are read exactly, unless there is white space in front of the mark**.
-/

set_option autoImplicit false

namespace DidRegistry

/-! ## Segments -/

/-- A segment of a method specific identifier: characters for segments, one at least. -/
def IsSegment (s : List Char) : Prop := s ≠ [] ∧ ∀ c ∈ s, isSegmentChar c = true

/-- Segments with colons between them. -/
inductive IsSegmented : List Char → Prop where
  | last {s : List Char} (segment : IsSegment s) : IsSegmented s
  | cons {s r : List Char} (segment : IsSegment s) (rest : IsSegmented r) : IsSegmented (s ++ ':' :: r)

theorem isSegments_append {s : List Char} (hs : ∀ c ∈ s, isSegmentChar c = true) (inSegment : Bool)
    (r : List Char) : isSegments inSegment (s ++ r) = isSegments (inSegment || !s.isEmpty) r := by
  induction s generalizing inSegment with
  | nil => simp
  | cons c s ih =>
    rw [List.forall_mem_cons] at hs
    have hc : c ≠ ':' := by
      rintro rfl
      exact absurd hs.1 (by decide)
    simp [isSegments, hc, hs.1, ih hs.2]

theorem isSegmented_of_isSegments {inSegment : Bool} {s : List Char} (h : isSegments inSegment s = true)
    (sofar : List Char) (hsofar : ∀ c ∈ sofar, isSegmentChar c = true)
    (hin : inSegment = true ↔ sofar ≠ []) : IsSegmented (sofar ++ s) := by
  induction s generalizing inSegment sofar with
  | nil =>
    rw [List.append_nil]
    exact .last ⟨hin.mp h, hsofar⟩
  | cons c r ih =>
    unfold isSegments at h
    split at h
    · rename_i hc
      rw [Bool.and_eq_true] at h
      rw [hc]
      exact .cons ⟨hin.mp h.1, hsofar⟩ (ih h.2 [] (by simp) (by simp))
    · rw [Bool.and_eq_true] at h
      have hrest := ih h.2 (sofar ++ [c]) (by simpa [or_imp, forall_and] using ⟨hsofar, h.1⟩) (by simp)
      rwa [List.append_assoc] at hrest

/-- **Segments are told by one pass over the characters.** -/
theorem isSegments_iff {s : List Char} : isSegments false s = true ↔ IsSegmented s := by
  constructor
  · intro h
    exact isSegmented_of_isSegments h [] (by simp) (by simp)
  · intro h
    induction h with
    | @last s segment =>
      have hs := isSegments_append segment.2 false []
      rw [List.append_nil] at hs
      simpa [isSegments, hs] using segment.1
    | @cons s r segment _ ih =>
      rw [isSegments_append segment.2]
      simpa [isSegments, ih] using segment.1

/-! ## DIDs -/

namespace Did

/-- The characters spell a DID: `did:`, a method, a colon, and segments with colons between them. -/
inductive Spelled : List Char → Did → Prop where
  | intro {method id : List Char} (named : method ≠ []) (methodChars : ∀ c ∈ method, isMethodChar c = true)
      (segments : IsSegmented id) :
      Spelled ('d' :: 'i' :: 'd' :: ':' :: (method ++ ':' :: id)) ⟨.ofList method, .ofList id⟩

/-- **A DID is read from the characters that spell it, and from no others.** -/
theorem ofChars?_eq_some_iff {s : List Char} {d : Did} : ofChars? s = some d ↔ Spelled s d := by
  constructor
  · intro h
    unfold ofChars? at h
    split at h
    · split at h
      · rename_i r method id hs
        split at h
        · rename_i hv
          cases h
          simp only [Bool.and_eq_true, Bool.not_eq_true', List.isEmpty_eq_false_iff, List.all_eq_true,
            isSegments_iff] at hv
          obtain ⟨⟨named, methodChars⟩, segments⟩ := hv
          rw [(splitAtFirst_eq_some hs).1]
          exact .intro named methodChars segments
        · cases h
      · cases h
    · cases h
  · rintro ⟨named, methodChars, segments⟩
    rename_i method id
    have hcolon : ∀ c ∈ method, c ≠ ':' := by
      rintro c hc rfl
      exact absurd (methodChars _ hc) (by decide)
    have hall : method.all isMethodChar = true := List.all_eq_true.mpr methodChars
    have hempty : method.isEmpty = false := List.isEmpty_eq_false_iff.mpr named
    simp [ofChars?, splitAtFirst_append hcolon, hempty, hall, isSegments_iff.mpr segments]

variable {s : List Char} {d : Did}

theorem Spelled.toChars_eq (h : Spelled s d) : d.toChars = s :=
  toChars_of_ofChars? (ofChars?_eq_some_iff.mpr h)

theorem Spelled.graphic (h : Spelled s d) : ∀ c ∈ s, IsGraphic c ∧ c ≠ '#' := by
  have hchars := mem_toChars (ofChars?_eq_some_iff.mpr h)
  rwa [h.toChars_eq] at hchars

end Did

/-! ## White space -/

namespace Text

theorem head?_strip {t : Text} {x : Point} (h : t.strip.points.head? = some x) :
    isBlank x.toChar = false := by
  have hx := head?_trim h
  exact hx

theorem ofChars_blank {gap : List Point} (h : ∀ x ∈ gap, isBlank x.toChar = true) :
    ofChars (chars ⟨gap⟩) = ⟨gap⟩ := by
  refine ofChars_chars fun hm => ?_
  obtain ⟨x, hx, he⟩ := mem_chars.mp hm
  have hblank := h x hx
  rw [he] at hblank
  exact absurd hblank (by decide)

end Text

/-! ## DID URLs -/

namespace DidUrl

/-- The text spells a DID URL: a DID or, relative to `base`, nothing, then `#` and a fragment. -/
inductive Spelled (base : Option Did) : Text → DidUrl → Prop where
  | absolute {owner fragment : List Char} {d : Did} (owned : Did.Spelled owner d)
      (tail : IsFragment fragment) : Spelled base (.ofChars (owner ++ '#' :: fragment)) ⟨d, .ofList fragment⟩
  | relative {fragment : List Char} {d : Did} (given : base = some d) (tail : IsFragment fragment) :
      Spelled base (.ofChars ('#' :: fragment)) ⟨d, .ofList fragment⟩

/-- The text would spell a DID URL but for white space between the DID and `#`. -/
inductive Gapped : Text → DidUrl → Prop where
  | intro {owner gap fragment : List Char} {d : Did} (owned : Did.Spelled owner d) (wide : gap ≠ [])
      (blank : ∀ c ∈ gap, Text.isBlank c = true) (tail : IsFragment fragment) :
      Gapped (.ofChars (owner ++ gap ++ '#' :: fragment)) ⟨d, .ofList fragment⟩

variable {t v : Text} {base : Option Did} {u : DidUrl}

theorem ofChars_fragment {fragment : List Point} (h : IsFragment (Text.chars ⟨fragment⟩)) :
    fragment = (Text.chars ⟨fragment⟩).map .char :=
  (congrArg Text.points (Text.ofChars_graphic fun c hc => isGraphic_of_isFragmentChar (h.2 c hc))).symm

/-- What is read as the DID in front of the mark, where no white space leads, is the characters of that DID
and white space behind them. -/
theorem exists_owner {owner : List Point} {d : Did} (hread : Did.ofText ⟨owner⟩ = .ok d)
    (hfront : ∀ x, owner.head? = some x → Text.isBlank x.toChar = false) :
    ∃ name gap : List Char, Did.Spelled name d ∧ (∀ c ∈ gap, Text.isBlank c = true) ∧
      owner = (name ++ gap).map .char := by
  obtain ⟨t, ht, hd⟩ := Did.parse_eq_ok (v := .str ⟨owner⟩) hread
  cases ht
  obtain ⟨before, after, howner, hbefore, hafter⟩ := Text.exists_trim (fun x => Text.isBlank x.toChar) owner
  obtain rfl : before = [] := by
    cases before with
    | nil => rfl
    | cons x before =>
      have hx := hfront x (by rw [howner]; rfl)
      rw [hbefore x List.mem_cons_self] at hx
      cases hx
  have hspelled := Did.ofChars?_eq_some_iff.mp hd
  have hname : Text.ofChars (Text.chars (Text.strip ⟨owner⟩)) = Text.strip ⟨owner⟩ :=
    Text.ofChars_graphic fun c hc => (hspelled.graphic c hc).1
  refine ⟨_, Text.chars ⟨after⟩, hspelled, fun c hc => ?_, ?_⟩
  · obtain ⟨x, hx, rfl⟩ := Text.mem_chars.mp hc
    exact hafter x hx
  · have hgap := congrArg Text.points (Text.ofChars_blank hafter)
    have hpoints := congrArg Text.points hname
    simp only [Text.ofChars] at hgap hpoints
    rw [List.map_append, hgap, hpoints]
    exact howner

theorem ofText_owner {name gap : List Char} {d : Did} (h : Did.Spelled name d)
    (hgap : ∀ c ∈ gap, Text.isBlank c = true) : Did.ofText ⟨(name ++ gap).map .char⟩ = .ok d := by
  have hstrip : Text.strip ⟨(name ++ gap).map .char⟩ = .ofChars name := by
    rw [Text.strip, List.map_append]
    refine congrArg Text.mk (Text.trim_append (fun x hx => ?_) fun x hx => ?_)
    · obtain ⟨c, hc, rfl⟩ := List.mem_map.mp hx
      exact (h.graphic c hc).1.not_blank
    · obtain ⟨c, hc, rfl⟩ := List.mem_map.mp hx
      exact hgap c hc
  unfold Did.ofText
  rw [hstrip, Text.chars_ofChars, Did.ofChars?_eq_some_iff.mpr h]

theorem ofText_of_strip {name gap fragment : List Char} {d : Did} (h : Did.Spelled name d)
    (hgap : ∀ c ∈ gap, Text.isBlank c = true) (tail : IsFragment fragment)
    (ht : t.strip = .ofChars (name ++ gap ++ '#' :: fragment)) :
    ofText t base = .ok ⟨d, .ofList fragment⟩ := by
  have hmark : ∀ x ∈ (name ++ gap).map Point.char, x ≠ .char '#' := by
    rintro x hx rfl
    obtain ⟨c, hc, he⟩ := List.mem_map.mp hx
    cases he
    rcases List.mem_append.mp hc with hc | hc
    · exact (h.graphic _ hc).2 rfl
    · exact absurd (hgap _ hc) (by decide)
  have hnamed : (name ++ gap).map Point.char ≠ [] := by
    obtain ⟨-, -, -⟩ := h
    exact List.cons_ne_nil _ _
  have hfragment : Text.chars ⟨fragment.map .char⟩ = fragment := Text.chars_ofChars fragment
  refine ofText_eq_ok_iff.mpr ⟨(name ++ gap).map .char, fragment.map .char, ?_, ?_, ?_,
    .inr ⟨hnamed, ofText_owner h hgap⟩⟩
  · rw [ht, Text.ofChars, List.map_append, List.map_cons]
    exact splitAtFirst_append hmark _
  · rwa [hfragment]
  · rw [hfragment]

/-- `#` and a fragment are read relative to a base. -/
theorem ofText_of_relative {fragment : List Char} {d : Did} (given : base = some d)
    (tail : IsFragment fragment)
    (ht : t.strip = .ofChars ('#' :: fragment)) : ofText t base = .ok ⟨d, .ofList fragment⟩ := by
  have hfragment : Text.chars ⟨fragment.map .char⟩ = fragment := Text.chars_ofChars fragment
  refine ofText_eq_ok_iff.mpr ⟨[], fragment.map .char, ?_, ?_, ?_, .inl ⟨rfl, given⟩⟩
  · rw [ht]
    exact splitAtFirst_append (a := []) (by simp) _
  · rwa [hfragment]
  · rw [hfragment]

theorem parse_of_ofText (h : ofText v base = .ok u) : parse (.str v) base = .ok u := by
  have hpresent : v.isEmpty = false := by
    obtain ⟨_ | ⟨p, ps⟩⟩ := v
    · cases h
    · rfl
  unfold parse
  simp only [hpresent, Bool.false_eq_true, if_false, h]

theorem Spelled.read (h : Spelled base v.strip u) : parse (.str v) base = .ok u := by
  generalize ht : v.strip = s at h
  cases h with
  | @absolute owner fragment d owned tail =>
    have hstrip : v.strip = .ofChars (owner ++ [] ++ '#' :: fragment) := by rw [List.append_nil, ht]
    exact parse_of_ofText (ofText_of_strip owned (by simp) tail hstrip)
  | relative given tail => exact parse_of_ofText (ofText_of_relative given tail ht)

theorem Gapped.read (h : Gapped v.strip u) : parse (.str v) base = .ok u := by
  generalize ht : v.strip = s at h
  obtain ⟨owned, -, blank, tail⟩ := h
  exact parse_of_ofText (ofText_of_strip owned blank tail ht)

/-- **Which texts are read as DID URLs, and as which.**  They are those that spell one when the white space
around them is stripped off, and those with more white space in front of the mark. -/
theorem parse_eq_ok_iff :
    parse (.str v) base = .ok u ↔ Spelled base v.strip u ∨ Gapped v.strip u := by
  refine ⟨fun h => ?_, fun h => h.elim Spelled.read Gapped.read⟩
  obtain ⟨t, ht, -, h⟩ := parse_eq_ok h
  cases ht
  obtain ⟨owner, fragment, hs, tail, hu, howner⟩ := ofText_eq_ok_iff.mp h
  have hpoints := (splitAtFirst_eq_some hs).1
  rw [ofChars_fragment tail] at hpoints
  generalize Text.chars ⟨fragment⟩ = tailChars at tail hu hpoints
  obtain ⟨did, urlFragment⟩ := u
  cases hu
  rcases howner with ⟨rfl, hbase⟩ | ⟨hnamed, hd⟩
  · have hstrip : v.strip = .ofChars ('#' :: tailChars) := congrArg Text.mk hpoints
    rw [hstrip]
    exact .inl (.relative hbase tail)
  · -- the text begins with no white space, so that the part in front of the mark does not either
    have hfront : ∀ x, owner.head? = some x → Text.isBlank x.toChar = false := by
      intro x hx
      have hhead : v.strip.points.head? = some x := by
        rw [hpoints, List.head?_append, hx]
        rfl
      exact Text.head?_strip hhead
    obtain ⟨name, gap, hname, hgap, rfl⟩ := exists_owner hd hfront
    have hstrip : v.strip = .ofChars (name ++ gap ++ '#' :: tailChars) := by
      rw [Text.ofChars, List.map_append, List.map_cons]
      exact congrArg Text.mk hpoints
    rw [hstrip]
    by_cases hempty : gap = []
    · rw [hempty, List.append_nil]
      exact .inl (.absolute hname tail)
    · exact .inr (.intro hname hempty hgap tail)

theorem Spelled.strip_eq (h : Spelled base t u) : t.strip = t := by
  cases h with
  | absolute owned tail =>
    refine Text.strip_ofChars fun c hc => ?_
    rcases List.mem_append.mp hc with hc | hc
    · exact (owned.graphic c hc).1
    · rcases List.mem_cons.mp hc with rfl | hc
      · exact ⟨by decide, by decide⟩
      · exact isGraphic_of_isFragmentChar (tail.2 c hc)
  | relative given tail =>
    refine Text.strip_ofChars fun c hc => ?_
    rcases List.mem_cons.mp hc with rfl | hc
    · exact ⟨by decide, by decide⟩
    · exact isGraphic_of_isFragmentChar (tail.2 c hc)

theorem Spelled.parse_eq (h : Spelled base t u) : parse (.str t) base = .ok u := by
  refine Spelled.read ?_
  rwa [h.strip_eq]

/-! ## Exact reading -/

/-- In front of the mark of a spelled DID URL there are graphic characters only, and no other mark. -/
theorem Spelled.front (h : Spelled base t u) :
    ∃ front tail, t = .ofChars (front ++ '#' :: tail) ∧ ∀ c ∈ front, IsGraphic c ∧ c ≠ '#' := by
  cases h with
  | @absolute owner fragment d owned tail => exact ⟨owner, fragment, rfl, owned.graphic⟩
  | @relative fragment d given tail => exact ⟨[], fragment, rfl, by simp⟩

/-- A text with white space in front of its mark spells no DID URL. -/
theorem Gapped.not_spelled {w : DidUrl} (h : Gapped t u) : ¬Spelled base t w := by
  intro hs
  obtain ⟨front, tail, ht, hfront⟩ := hs.front
  cases h with
  | @intro owner gap fragment d owned wide blank _ =>
    have hchars : owner ++ gap ++ '#' :: fragment = front ++ '#' :: tail := by
      have h := congrArg Text.chars ht
      rwa [Text.chars_ofChars, Text.chars_ofChars] at h
    have hmark : ∀ c ∈ owner ++ gap, c ≠ '#' := by
      rintro c hc rfl
      rcases List.mem_append.mp hc with hc | hc
      · exact (owned.graphic _ hc).2 rfl
      · exact absurd (blank _ hc) (by decide)
    -- both are what stands in front of the first mark
    have hparts := splitAtFirst_append hmark fragment
    rw [hchars, splitAtFirst_append fun c hc => (hfront c hc).2] at hparts
    cases hparts
    obtain ⟨c, hc⟩ := List.exists_mem_of_ne_nil gap wide
    have hgraphic := (hfront c (List.mem_append_right owner hc)).1.not_blank
    rw [blank c hc] at hgraphic
    cases hgraphic

theorem Spelled.toText_eq (h : Spelled none t u) : Text.ofString u.toText = t := by
  cases h with
  | absolute owned tail => rw [ofString_toText, toChars, owned.toChars_eq, String.toList_ofList]
  | relative given => cases given

/-- White space in front of the mark is not written. -/
theorem Gapped.toText_ne (h : Gapped t u) : Text.ofString u.toText ≠ t := by
  have hnot : ¬Spelled none t u := h.not_spelled
  intro he
  refine hnot ?_
  rw [← he, ofString_toText]
  obtain ⟨owned, -, -, tail⟩ := h
  rw [toChars, owned.toChars_eq, String.toList_ofList]
  exact .absolute owned tail

/-- The text is read exactly: as what it spells, without the white space around it, and not at all if it
spells nothing; and a DID URL that is read without a base is written as that text. -/
structure ReadExactly (v : Text) (base : Option Did) : Prop where
  read : ∀ u, parse (.str v) base = .ok u ↔ Spelled base v.strip u
  written : ∀ u, parse (.str v) none = .ok u → Text.ofString u.toText = v.strip

/-- **A text is read as a DID URL exactly, unless there is white space in front of its mark** where it would
spell a DID URL otherwise.  Such a text is read too, as the DID URL without that white space. -/
theorem readExactly_iff (v : Text) (base : Option Did) :
    (ReadExactly v base ↔ ¬∃ u, Gapped v.strip u) ∧
      ∀ u, Gapped v.strip u → parse (.str v) base = .ok u ∧ Text.ofString u.toText ≠ v.strip := by
  refine ⟨⟨?_, fun hnone => ⟨fun u => ?_, fun u hu => ?_⟩⟩, fun u hu => ⟨hu.read, hu.toText_ne⟩⟩
  · rintro ⟨hread, -⟩ ⟨u, hu⟩
    exact hu.not_spelled ((hread u).mp hu.read)
  · exact parse_eq_ok_iff.trans (or_iff_left fun hu => hnone ⟨u, hu⟩)
  · rcases parse_eq_ok_iff.mp hu with hspelled | hgapped
    · exact hspelled.toText_eq
    · exact (hnone ⟨u, hgapped⟩).elim

/-- A DID and a fragment with a space between them. -/
theorem readExactly_iff_space :
    Gapped (Text.strip "did:example:123 #primary") ⟨⟨"example", "123"⟩, "primary"⟩ ∧
      parse (.str "did:example:123 #primary") none = .ok ⟨⟨"example", "123"⟩, "primary"⟩ := by
  have howner : Did.Spelled "did:example:123".toList ⟨"example", "123"⟩ :=
    Did.ofChars?_eq_some_iff.mp (by decide)
  have hblank : ∀ c ∈ [' '], Text.isBlank c = true := List.forall_mem_singleton.mpr (by decide)
  have htail : IsFragment "primary".toList := ⟨by decide, List.all_eq_true.mp (by decide)⟩
  have hgapped := Gapped.intro howner (List.cons_ne_nil _ _) hblank htail
  obtain ⟨hread, -⟩ := (readExactly_iff "did:example:123 #primary" none).2 _ hgapped
  exact ⟨hgapped, hread⟩

/-- **A space in front of the mark is let through**, and the text is not the one that is written. -/
theorem not_readExactly_space :
    ¬ReadExactly "did:example:123 #primary" none ∧
      parse (.str "did:example:123 #primary") none = .ok ⟨⟨"example", "123"⟩, "primary"⟩ := by
  have hread : parse (.str "did:example:123 #primary") none = .ok ⟨⟨"example", "123"⟩, "primary"⟩ :=
    toOption_eq_some.mp (by decide +kernel)
  refine ⟨fun h => ?_, hread⟩
  have hwritten := h.written _ hread
  exact absurd hwritten (by decide +kernel)

end DidUrl

end DidRegistry
