import DidRegistry.Json.Literal
import DidRegistry.Report
import DidRegistry.Text.Blank

/-!
# Identifiers

A DID is `did:`, a method of lower-case letters and digits, a colon, and a method specific
identifier: one or more segments with colons between them.  A DID URL is a DID, `#` and a fragment;
without the DID it is relative to a base.  White space around an identifier is ignored.

The subjects of the registry are DIDs and, for credentials, DID URLs; the keys in a document are
named by DID URLs.

## Results

* `Did.ofChars?_toChars` — a DID that was read is read back from its text.
-/

set_option autoImplicit false

namespace DidRegistry

/-- A DID. -/
structure Did where
  method : String
  id : String
deriving DecidableEq, Repr

/-- A DID URL. -/
structure DidUrl where
  did : Did
  fragment : String
deriving DecidableEq, Repr

/-- Why a value is no identifier. -/
inductive IdentifierError where
  /-- The value is no text. -/
  | notText (value : Json)
  | notDid (value : Json)
  | notDidUrl (value : Json)
  | noFragment (value : Json)
  | badFragment (value : Json)
  /-- The reference is relative and there is no base. -/
  | noBase (value : Json)
deriving DecidableEq, Repr

namespace IdentifierError

/-- What the error says. -/
def message : IdentifierError → String
  | .notText v => "DID must be a string, got: " ++ v.kindName
  | .notDid v => "not a valid DID: " ++ v.literal
  | .notDidUrl v => "not a valid DID URL: " ++ v.literal
  | .noFragment v => "DID URL has no fragment: " ++ v.literal
  | .badFragment v => "invalid DID URL fragment: " ++ v.literal
  | .noBase v => "relative DID URL without base DID: " ++ v.literal

/-- The values that the message shows. -/
def shown : IdentifierError → List Json
  | .notText _ => []
  | .notDid v | .notDidUrl v | .noFragment v | .badFragment v | .noBase v => [v]

/-- Whether the message can be shown. -/
def isShown (e : IdentifierError) : Bool := e.shown.all Json.allShort

/-- What is known about the error. -/
def details : IdentifierError → Json.Members
  | .notDid v => [("value", v)]
  | _ => []

/-- The report of the error. -/
def report (e : IdentifierError) : Report :=
  (Report.coded .malformedIdentifier "MALFORMED_IDENTIFIER" (say e.message) e.details).showing e.shown

theorem kind_of_isShown {e : IdentifierError} (h : e.isShown = true) :
    e.report.kind = .malformedIdentifier := by
  rw [report, Report.showing_of_short h]
  rfl

end IdentifierError

/-- A character of a method. -/
def isMethodChar (c : Char) : Bool :=
  ('a' ≤ c && c ≤ 'z') || ('0' ≤ c && c ≤ '9')

/-- A character of a segment of a method specific identifier. -/
def isSegmentChar (c : Char) : Bool :=
  ('a' ≤ c && c ≤ 'z') || ('A' ≤ c && c ≤ 'Z') || ('0' ≤ c && c ≤ '9') ||
    c == '.' || c == '_' || c == '%' || c == '-'

/-- The punctuation that a fragment may hold. -/
def fragmentMarks : List Char := "._~!$&'()*+,;=:@/?%-".toList

/-- A character of a fragment. -/
def isFragmentChar (c : Char) : Bool :=
  ('a' ≤ c && c ≤ 'z') || ('A' ≤ c && c ≤ 'Z') || ('0' ≤ c && c ≤ '9') || fragmentMarks.contains c

/-- Whether the text is a sequence of segments with colons between them; `inSegment` when the
current segment has a character already. -/
def isSegments : (inSegment : Bool) → List Char → Bool
  | inSegment, [] => inSegment
  | inSegment, c :: r =>
    if c = ':' then inSegment && isSegments false r
    else isSegmentChar c && isSegments true r

/-- What stands up to the first `mark` and what stands after it; none when there is no `mark`. -/
def splitAtFirst {α : Type} [DecidableEq α] (mark : α) : List α → Option (List α × List α)
  | [] => none
  | c :: r =>
    if c = mark then some ([], r)
    else (splitAtFirst mark r).map fun p => (c :: p.1, p.2)

theorem splitAtFirst_append {α : Type} [DecidableEq α] {mark : α} {a : List α}
    (h : ∀ c ∈ a, c ≠ mark) (r : List α) : splitAtFirst mark (a ++ mark :: r) = some (a, r) := by
  induction a with
  | nil => simp [splitAtFirst]
  | cons c a ih =>
    have hc : c ≠ mark := h c (by simp)
    simp [splitAtFirst, hc, ih fun x hx => h x (by simp [hx])]

namespace Did

/-- The text of a DID. -/
def toChars (d : Did) : List Char :=
  'd' :: 'i' :: 'd' :: ':' :: (d.method.toList ++ ':' :: d.id.toList)

/-- The text of a DID. -/
def toText (d : Did) : String := String.ofList d.toChars

/-- The DID that a text without surrounding white space is. -/
def ofChars? : List Char → Option Did
  | 'd' :: 'i' :: 'd' :: ':' :: r =>
    match splitAtFirst ':' r with
    | some (method, id) =>
      if !method.isEmpty && method.all isMethodChar && isSegments false id then
        some ⟨String.ofList method, String.ofList id⟩
      else none
    | none => none
  | _ => none

/-- Reads a DID from a text. -/
def ofText (t : Text) : Except IdentifierError Did :=
  match ofChars? t.strip.chars with
  | some d => .ok d
  | none => .error (.notDid (.str t))

/-- Reads a DID from a value. -/
def parse : Json → Except IdentifierError Did
  | .str t => ofText t
  | v => .error (.notText v)

/-- The order of DIDs: by method, then by identifier. -/
def le (a b : Did) : Bool :=
  decide (a.method < b.method) || (a.method == b.method && decide (a.id ≤ b.id))

/-- A DID that was read is read back from its text. -/
theorem ofChars?_toChars {s : List Char} {d : Did} (h : ofChars? s = some d) :
    ofChars? d.toChars = some d := by
  unfold ofChars? at h
  split at h
  · split at h
    · rename_i method id _
      split at h
      · rename_i hv
        cases h
        have hm : ∀ c ∈ method, c ≠ ':' := by
          simp only [Bool.and_eq_true, List.all_eq_true] at hv
          intro c hc heq
          have := hv.1.2 c hc
          rw [heq] at this
          exact absurd this (by decide)
        simp only [toChars, String.toList_ofList, ofChars?, splitAtFirst_append hm, hv, if_true]
      · cases h
    · cases h
  · cases h

end Did

namespace DidUrl

/-- The text of a DID URL. -/
def toChars (u : DidUrl) : List Char :=
  u.did.toChars ++ '#' :: u.fragment.toList

/-- The text of a DID URL. -/
def toText (u : DidUrl) : String := String.ofList u.toChars

/-- Reads a DID URL from a text; a relative one is taken against `base`. -/
def ofText (t : Text) (base : Option Did) : Except IdentifierError DidUrl :=
  match splitAtFirst (.char '#') t.strip.points with
  | none => .error (.noFragment (.str t))
  | some (owner, fragment) =>
    let fragment := Text.chars ⟨fragment⟩
    if fragment.isEmpty then .error (.noFragment (.str t))
    else if !fragment.all isFragmentChar then .error (.badFragment (.str t))
    else if owner.isEmpty then
      match base with
      | some d => .ok ⟨d, String.ofList fragment⟩
      | none => .error (.noBase (.str t))
    else
      match Did.ofText ⟨owner⟩ with
      | .ok d => .ok ⟨d, String.ofList fragment⟩
      | .error e => .error e

/-- Reads a DID URL from a value; a relative one is taken against `base`. -/
def parse (v : Json) (base : Option Did) : Except IdentifierError DidUrl :=
  match v with
  | .str t => if t.isEmpty then .error (.notDidUrl v) else ofText t base
  | _ => .error (.notDidUrl v)

/-- The order of DID URLs: by DID, then by fragment. -/
def le (a b : DidUrl) : Bool :=
  if a.did = b.did then decide (a.fragment ≤ b.fragment) else a.did.le b.did

end DidUrl

end DidRegistry
