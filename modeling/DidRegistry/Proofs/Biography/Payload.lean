import DidRegistry.Proofs.Biography.Refusal
import DidRegistry.Proofs.Json.Room
import DidRegistry.Proofs.Text.Padding
import DidRegistry.Proofs.Text.Utf8

/-!
# Sound payloads

What a payload has to be, said from its characters on and not by how it is read: base64 of UTF-8, of the
text of a JSON object or of the subject.  A payload passes its check when it is sound, but for two things.
Padding behind whole groups of digits is passed over, so that the payload need not be base64; and a JSON
text is not read at all where its brackets lie too deep in one another, be they those of an object or not.

## Results

* `Payload.objectOf_eq_ok_iff`, `Payload.objectOf_tooDeep_iff` — what is read of bytes in the place of a
  document.
* `Operation.Fits.isSound_or` — a payload that passes is sound, or it has too much padding.
* `Operation.fits_of_carries` — **what an operation has to carry passes**, if it is not too deep.
* `Entry.checkPayload_tooDeep_iff` — which payloads are refused for their depth.
-/

set_option autoImplicit false

namespace DidRegistry

namespace Payload

/-- The bytes are what an operation of the kind has to carry: the UTF-8 of the text of a JSON object, which
names the subject if that is a DID, or the UTF-8 of the subject. -/
inductive Carries (variety : Variety) (subject : Json) (kind : Text) (bytes : List UInt8) : Prop where
  | document {cs : List Char} {ms : Json.Members} (kind : kind ∈ variety.documentKinds.map Text.ofString)
      (utf8 : bytes = Text.Utf8.encode cs) (object : Json.IsTextOf (Text.ofChars cs).points (.obj ms))
      (about : variety = .did → ms.get? "id" = some subject)
  | name {cs : List Char} (kind : kind ∉ variety.documentKinds.map Text.ofString)
      (utf8 : bytes = Text.Utf8.encode cs) (names : subject = .str (.ofChars cs))

/-- The payload is sound: base64 of what the operation has to carry. -/
def IsSound (variety : Variety) (subject : Json) (kind payload : Text) : Prop :=
  ∃ bytes, Text.Base64.Spells payload.chars bytes ∧ Carries variety subject kind bytes

/-- The payload would be sound if there were no padding behind its whole groups of digits. -/
def IsOverfull (variety : Variety) (subject : Json) (kind payload : Text) : Prop :=
  ∃ bytes, Text.Base64.Overfull payload.chars bytes ∧ Carries variety subject kind bytes

/-- In the place of a document the payload holds a text whose brackets and braces lie too deep in one another
to be read. -/
def IsTooDeep [Platform] (variety : Variety) (kind payload : Text) : Prop :=
  kind ∈ variety.documentKinds.map Text.ofString ∧
    ∃ cs, (Text.Base64.Spells payload.chars (Text.Utf8.encode cs) ∨
        Text.Base64.Overfull payload.chars (Text.Utf8.encode cs)) ∧
      Json.read (Text.ofChars cs).points = .error .tooDeep

variable {variety : Variety} {subject : Text} {kind payload : Text} {bytes : List UInt8} {cs : List Char}

theorem bytes_eq_ok_iff :
    Payload.bytes payload = .ok bytes ↔
      Text.Base64.Spells payload.chars bytes ∨ Text.Base64.Overfull payload.chars bytes :=
  bytes_eq_ok.trans Text.Base64.decode_eq_ok_iff

theorem textOf_eq_ok_iff : textOf bytes = .ok cs ↔ bytes = Text.Utf8.encode cs := by
  rw [← Text.Utf8.decode_eq_some_iff, textOf]
  cases Text.Utf8.decode bytes <;> simp

theorem objectOf_eq_ok_iff [Platform] {ms : Json.Members} :
    objectOf bytes = .ok ms ↔
      ∃ cs, bytes = Text.Utf8.encode cs ∧ Json.read (Text.ofChars cs).points = .ok (.obj ms) := by
  simp only [← textOf_eq_ok_iff]
  unfold objectOf
  cases textOf bytes with
  | error e => simp
  | ok cs =>
    simp only [Except.ok.injEq, exists_eq_left']
    cases Json.read (Text.ofChars cs).points with
    | error e => simp
    | ok v => cases v <;> simp

theorem objectOf_tooDeep_iff [Platform] :
    objectOf bytes = .error (.json .tooDeep) ↔
      ∃ cs, bytes = Text.Utf8.encode cs ∧ Json.read (Text.ofChars cs).points = .error .tooDeep := by
  simp only [← textOf_eq_ok_iff]
  unfold objectOf
  cases htext : textOf bytes with
  | error e =>
    -- what is no text at all is refused for that
    have hne : e ≠ .json .tooDeep := by
      rintro rfl
      cases textOf_error htext
    simp [hne]
  | ok cs =>
    simp only [Except.ok.injEq, exists_eq_left']
    cases Json.read (Text.ofChars cs).points with
    | error e => simp
    | ok v => cases v <;> simp

end Payload

namespace Operation

variable {variety : Variety} {subject : Text} {op : Operation Text}

/-- A payload that fits its operation is sound, but for padding behind whole groups of digits. -/
theorem Fits.isSound_or [Platform] (h : op.Fits variety subject) :
    Payload.IsSound variety (.str subject) op.kind op.payload ∨
      Payload.IsOverfull variety (.str subject) op.kind op.payload := by
  obtain ⟨bytes, hbytes, hcarries⟩ : ∃ bytes, Payload.bytes op.payload = .ok bytes ∧
      Payload.Carries variety (.str subject) op.kind bytes := by
    cases h with
    | @document bytes ms kind decoded object about =>
      obtain ⟨cs, hutf8, hread⟩ := Payload.objectOf_eq_ok_iff.mp object
      exact ⟨bytes, decoded, .document kind hutf8 (Json.isTextOf_of_read hread) about⟩
    | @name bytes cs kind decoded text names =>
      exact ⟨bytes, decoded, .name kind (Payload.textOf_eq_ok_iff.mp text) (congrArg Json.str names.symm)⟩
  rcases Payload.bytes_eq_ok_iff.mp hbytes with hspells | hoverfull
  · exact .inl ⟨bytes, hspells, hcarries⟩
  · exact .inr ⟨bytes, hoverfull, hcarries⟩

/-- What an operation has to carry fits it, if it does not lie too deep. -/
theorem fits_of_carries [Platform] {bytes : List UInt8} (hbytes : Payload.bytes op.payload = .ok bytes)
    (h : Payload.Carries variety (.str subject) op.kind bytes)
    (hdeep : ¬Payload.IsTooDeep variety op.kind op.payload) : op.Fits variety subject := by
  cases h with
  | @document cs ms kind utf8 object about =>
    rcases object.read_eq with hread | htooDeep
    · exact .document kind hbytes (Payload.objectOf_eq_ok_iff.mpr ⟨cs, utf8, hread⟩) about
    · exact (hdeep ⟨kind, cs, Payload.bytes_eq_ok_iff.mp (utf8 ▸ hbytes), htooDeep⟩).elim
  | name kind utf8 names =>
    exact .name kind hbytes (Payload.textOf_eq_ok_iff.mpr utf8) (Json.str.inj names).symm

end Operation

namespace Entry

variable {variety : Variety} {subject : Text} {r : Entry}

/-- A payload is refused for its depth exactly when it is in the place of a document and too deep. -/
theorem checkPayload_tooDeep_iff [Platform] :
    r.checkPayload variety (.str subject) = .error (.unreadable (.json .tooDeep)) ↔
      Payload.IsTooDeep variety r.operation.kind r.operation.payload := by
  constructor
  · intro h
    unfold checkPayload at h
    split at h
    · rename_i e he
      cases h
      cases Payload.kind_of_bytes he
    rename_i bytes hbytes
    split at h
    · rename_i hkind
      split at h
      · rename_i e he
        cases h
        obtain ⟨cs, hutf8, hread⟩ := Payload.objectOf_tooDeep_iff.mp he
        exact ⟨Variety.carriesDocument_eq_true.mp hkind, cs, Payload.bytes_eq_ok_iff.mp (hutf8 ▸ hbytes),
          hread⟩
      · dsimp only at h
        split at h <;> cases h
    · split at h
      · rename_i e he
        cases h
        cases Payload.textOf_error he
      · split at h <;> cases h
  · rintro ⟨hkind, cs, hspelled, hread⟩
    unfold checkPayload
    simp only [Payload.bytes_eq_ok_iff.mpr hspelled, Variety.carriesDocument_eq_true.mpr hkind, if_true,
      Payload.objectOf_tooDeep_iff.mpr ⟨cs, rfl, hread⟩]

end Entry

end DidRegistry
