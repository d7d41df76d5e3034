import DidRegistry.Platform.Usual
import DidRegistry.Proofs.Biography.Refusal
import DidRegistry.Proofs.Biography.RoundTrip
import DidRegistry.Proofs.Text.HexDigits

/-!
# Transaction hashes

A transaction is known by the hash that the ledger has for it, and a transaction names the one before it
by that hash, so that a history holds together only as far as its hashes are written exactly.  The pattern
for them says `0x` or nothing and sixty-four hexadecimal digits, but its end is met in front of a line
feed too: one text that is no hash passes for every one that is.

## Results

* `Entry.isTxid_iff` — the texts that pass for a hash.
* `Text.IsHash.ne_lineFeed`, `Text.IsHash.length_eq` — how a hash ends and how long it is.
* `Biography.txid_isHash_iff` — **the transactions of a history that was read have the hashes they should,
  up to a line feed at the end**.
-/

set_option autoImplicit false

namespace DidRegistry

/-! ## Hashes -/

namespace Text

/-- The text is a hash: `0x` or nothing, sixty-four hexadecimal digits, and nothing else. -/
inductive IsHash : Text → Prop where
  | intro {mark digits : List Char} (marked : mark = [] ∨ mark = ['0', 'x']) (hex : IsHex 64 digits) :
      IsHash (.ofChars (mark ++ digits))

variable {t : Text} {mark digits : List Char}

theorem notMem_hash (marked : mark = [] ∨ mark = ['0', 'x']) (hex : IsHex 64 digits) {c : Char}
    (hdigit : (hexDigit? c).isSome = false) (hmark : c ≠ 'x') : c ∉ mark ++ digits := by
  have hzero : c ≠ '0' := by
    rintro rfl
    cases hdigit
  rcases marked with rfl | rfl
  · exact hex.notMem hdigit
  · simp [hzero, hmark, hex.notMem hdigit]

/-- A hash does not end with a line feed. -/
theorem IsHash.ne_lineFeed (h : t.IsHash) : t.points.getLast? ≠ some (.char '\n') := by
  obtain ⟨marked, hex⟩ := h
  intro hlast
  obtain ⟨c, hc, he⟩ := List.mem_map.mp (List.mem_of_getLast? hlast)
  cases he
  exact notMem_hash marked hex rfl (by decide) hc

/-- A hash has as many points as its digits, and two more with the mark. -/
theorem IsHash.length_eq (h : t.IsHash) : t.points.length = 64 ∨ t.points.length = 66 := by
  obtain ⟨rfl | rfl, hex⟩ := h
  · simp [ofChars, hex.length]
  · simp [ofChars, hex.length]

end Text

/-! ## The pattern -/

namespace Entry

open Text (IsHex)

theorem isHash_iff {s : List Char} :
    isHash s = true ↔ ∃ digits, IsHex 64 digits ∧ (s = digits ∨ s = digits ++ ['\n']) :=
  Text.hexRun_iff

/-- The characters that pass for a hash are those of one, and a line feed may follow. -/
theorem isTxid_chars_iff {s : List Char} :
    isTxid s = true ↔ ∃ mark digits, (mark = [] ∨ mark = ['0', 'x']) ∧ IsHex 64 digits ∧
      (s = mark ++ digits ∨ s = mark ++ digits ++ ['\n']) := by
  unfold isTxid
  rw [Bool.or_eq_true]
  constructor
  · rintro (h | h)
    · obtain ⟨digits, hex, hs⟩ := isHash_iff.mp h
      exact ⟨[], digits, .inl rfl, hex, hs⟩
    · split at h
      · obtain ⟨digits, hex, hs⟩ := isHash_iff.mp h
        exact ⟨['0', 'x'], digits, .inr rfl, hex, by simpa using hs⟩
      · cases h
  · rintro ⟨mark, digits, rfl | rfl, hex, hs⟩
    · exact .inl (isHash_iff.mpr ⟨digits, hex, hs⟩)
    · refine .inr ?_
      rcases hs with rfl | rfl
      · exact isHash_iff.mpr ⟨digits, hex, .inl rfl⟩
      · exact isHash_iff.mpr ⟨digits, hex, .inr rfl⟩

/-- A text passes for a hash when it is one, or when it is one with a line feed after it. -/
theorem isTxid_iff {t : Text} :
    isTxid t.chars = true ↔ t.IsHash ∨ ∃ hash : Text, hash.IsHash ∧ t = hash ++ Text.ofString "\n" := by
  rw [isTxid_chars_iff]
  constructor
  · rintro ⟨mark, digits, marked, hex, hs⟩
    have hlone : '\ufffd' ∉ mark ++ digits := Text.notMem_hash marked hex rfl (by decide)
    -- a lone half counts as a character that the pattern does not take
    have hpoints : Text.ofChars t.chars = t := by
      apply Text.ofChars_chars
      rcases hs with hs | hs
      · rwa [hs]
      · rw [hs]
        intro hmem
        rcases List.mem_append.mp hmem with hmem | hmem
        · exact hlone hmem
        · simp at hmem
    rw [← hpoints]
    rcases hs with hs | hs
    · rw [hs]
      exact .inl (.intro marked hex)
    · rw [hs]
      refine .inr ⟨_, .intro marked hex, ?_⟩
      exact congrArg Text.mk List.map_append
  · rintro (⟨marked, hex⟩ | ⟨hash, ⟨marked, hex⟩, rfl⟩)
    · exact ⟨_, _, marked, hex, .inl (Text.chars_ofChars _)⟩
    · refine ⟨_, _, marked, hex, .inr ?_⟩
      rw [← Text.chars_ofChars (_ ++ _ ++ ['\n'])]
      exact congrArg Text.chars (congrArg Text.mk List.map_append.symm)

theorem isHash_iff_of_isTxid {t : Text} (h : isTxid t.chars = true) :
    t.IsHash ↔ t.points.getLast? ≠ some (.char '\n') := by
  constructor
  · exact Text.IsHash.ne_lineFeed
  · intro hlast
    rcases isTxid_iff.mp h with hhash | ⟨hash, -, rfl⟩
    · exact hhash
    · exact absurd List.getLast?_concat hlast

end Entry

/-! ## Histories -/

namespace Biography

/-- **The transactions of a history that was read have the hashes they should, up to a line feed at the end.**
The hash of a transaction is `0x` or nothing and exactly sixty-four hexadecimal digits unless it ends with a
line feed, and then it is this in front of that line feed. -/
theorem txid_isHash_iff [Platform] {variety : Variety} {v : Json} {b : Biography}
    (h : ofJson variety v = .ok b) :
    ∀ r ∈ b.entries,
      (r.txid.IsHash ↔ r.txid.points.getLast? ≠ some (.char '\n')) ∧
      (r.txid.IsHash → r.txid.points.length = 64 ∨ r.txid.points.length = 66) ∧
      (¬r.txid.IsHash → ∃ hash : Text, hash.IsHash ∧ r.txid = hash ++ Text.ofString "\n") := by
  intro r hr
  obtain ⟨-, -, hw⟩ := ofJson_eq_ok_iff_wellFormed.mp h
  obtain ⟨subject, owner, -, -, hall⟩ := hw.entries
  have htxid := (hall r hr).hash
  refine ⟨Entry.isHash_iff_of_isTxid htxid, Text.IsHash.length_eq, ?_⟩
  intro hnot
  exact (Entry.isTxid_iff.mp htxid).resolve_left hnot

/-- The history of a DID with one transaction. -/
def single (r : Entry) : Biography := ⟨.did, .str "did:example:123", .valid, [r]⟩

/-- The value that it is read from. -/
def singleValue (r : Entry) : Json := (single r).value [r.value "2024-03-01T10:00:00Z"]

section

attribute [local instance] Platform.usual

/-- A DID is created by a transaction whose hash is all ones. -/
theorem txid_isHash_iff_created :
    ofJson .did (singleValue .created) = .ok (single .created) ∧ Entry.created.txid.IsHash := by
  have hread : ofJson .did (singleValue .created) = .ok (single .created) :=
    toOption_eq_some.mp (by decide +kernel)
  obtain ⟨hhash, -, -⟩ := txid_isHash_iff hread .created (List.mem_singleton_self _)
  exact ⟨hread, hhash.mpr (by decide +kernel)⟩

/-- The transaction with a line feed after its hash. -/
def fed : Entry := { Entry.created with txid := Entry.created.txid ++ Text.ofString "\n" }

/-- **A hash with a line feed after it passes**: the history is read, and the line feed stays in it. -/
theorem not_txid_isHash_fed :
    ofJson .did (singleValue fed) = .ok (single fed) ∧ ¬fed.txid.IsHash ∧ fed.txid.points.length = 65 := by
  refine ⟨toOption_eq_some.mp (by decide +kernel), ?_, by decide +kernel⟩
  intro h
  exact h.ne_lineFeed List.getLast?_concat

end

end Biography

end DidRegistry
