import DidRegistry.Platform.Usual
import DidRegistry.Proofs.Operation.Published
import DidRegistry.Proofs.Text.Base64

/-!
# Operations for documents

An operation carries its document as base64 of canonical JSON.  So documents that are equal up to the order
of their members make the same operation, and the payload gives the document back up to that order, if its
lists and objects do not lie too deep in one another for the writer and the reader.

## Results

* `Operation.forDocument_eq` — a plain document makes an operation as far as it can be written, with this
  payload.
* `Operation.forDocument_canonical` — **the canonical text of a document, and so the payload and the bytes
  that are published, are the same exactly for documents that are equal up to the order of members**.
* `Operation.payloadObject_eq` — what is read from the payload is what is read from the canonical text.
* `Operation.forDocument_readBack` — **the document is read out of the payload, unless it is too deep**,
  as some document is on every platform.
-/

set_option autoImplicit false

namespace DidRegistry

theorem Text.Utf8.encode_injective : Function.Injective encode := fun a b h =>
  Option.some.inj (by rw [← decode_encode a, ← decode_encode b, h])

namespace Operation

open Json

/-- The digits of the payload that carries a document. -/
def digitsOf (document : Json) : List Char := Text.Base64.encode (Text.Utf8.encode document.render)

theorem digitsOf_injective {v w : Json} (h : digitsOf v = digitsOf w) : v.render = w.render :=
  Text.Utf8.encode_injective (Text.Base64.encode_injective h)

/-- An operation with a payload of these digits. -/
def carrying (specification kind : Json) (previous : Option Json) (digits : List Char)
    (method signature proofType : Json) : Operation Json :=
  ⟨specification, kind, previous, .str (Text.ofChars digits), method, signature, proofType⟩

theorem digitsOf_congr {fits : Int → Prop} {v w : Json} (hv : Plain fits v) (h : Reordered v w) :
    digitsOf v = digitsOf w := by
  rw [digitsOf, digitsOf, render_eq, render_eq, (sorted_eq_iff hv).mpr h]

section

variable [Platform] {fits : Int → Prop} {document : Json} (specification kind : Json)
  (previous : Option Json) (method signature proofType : Json)

/-- A plain document makes an operation as far as it can be written. -/
theorem forDocument_eq (h : Plain fits document) (hw : document.IsWritable) :
    forDocument specification kind previous document method signature proofType =
      .ok (carrying specification kind previous (digitsOf document) method signature proofType) := by
  have hpayload : Payload.ofDocument document = .ok (String.ofList (digitsOf document)) := by
    rw [Payload.ofDocument, h.canonicalBytes_eq hw]
    rfl
  rw [forDocument, hpayload]
  simp only [Except.map, carrying, Text.ofString, String.toList_ofList]

theorem forDocument_error {e : CanonicalError} (h : document.canonical = .error e) :
    forDocument specification kind previous document method signature proofType = .error e := by
  rw [forDocument, Payload.ofDocument, canonicalBytes, h]
  rfl

theorem forDocument_isOk_iff (h : Plain fits document) :
    (∃ op, forDocument specification kind previous document method signature proofType = .ok op) ↔
      document.IsWritable := by
  refine ⟨fun ⟨op, hop⟩ => h.canonical_isOk_iff.mp ?_, fun hw => ⟨_, forDocument_eq _ _ _ _ _ _ h hw⟩⟩
  cases hc : document.canonical with
  | ok s => exact ⟨s, rfl⟩
  | error e => cases hop.symm.trans (forDocument_error _ _ _ _ _ _ hc)

theorem eq_carrying (h : Plain fits document) {op : Operation Json}
    (hop : forDocument specification kind previous document method signature proofType = .ok op) :
    op = carrying specification kind previous (digitsOf document) method signature proofType := by
  have hw := (forDocument_isOk_iff specification kind previous method signature proofType h).mp ⟨op, hop⟩
  exact Except.ok.inj (hop.symm.trans (forDocument_eq _ _ _ _ _ _ h hw))

/-- Documents that are equal up to the order of members make the same operation, or none for the same
reason. -/
theorem forDocument_congr {document' : Json} (h : Plain fits document) (hr : Reordered document document') :
    forDocument specification kind previous document method signature proofType =
      forDocument specification kind previous document' method signature proofType := by
  rw [forDocument, forDocument, Payload.ofDocument, Payload.ofDocument, canonicalBytes, canonicalBytes,
    hr.canonical_eq h]

theorem wireBytes_isOk_iff {op : Operation Json} (h : Plain fits op.toJson) :
    (∃ bytes, op.wireBytes = .ok bytes) ↔ op.toJson.IsWritable := by
  rw [← h.canonical_isOk_iff, wireBytes, canonicalBytes]
  cases op.toJson.canonical <;> simp [Except.map]

/-- **The canonical text of a document, and so the payload and the bytes that are published, are the same
exactly for documents that are equal up to the order of members.**  They are there when no whole number is too
long for the writer and nothing lies too deep for it; documents that are equal up to that order come to the
same anyway.  The bytes are there when the operation as a whole is within the limits. -/
theorem forDocument_canonical {fits : Int → Prop} {v w : Json} (hv : Plain fits v) (hw : Plain fits w) :
    ((∃ s, v.canonical = .ok s) ↔ v.IsWritable) ∧
      (Reordered v w → v.canonical = w.canonical) ∧
      (v.IsWritable → (v.canonical = w.canonical ↔ Reordered v w)) ∧
      ∀ (specification kind : Json) (previous : Option Json) (method signature proofType : Json),
        let make := fun document =>
          forDocument specification kind previous document method signature proofType
        ((∃ op, make v = .ok op) ↔ v.IsWritable) ∧
          (Reordered v w → make v = make w) ∧
          (∀ op op', make v = .ok op → make w = .ok op' →
            (op.payload = op'.payload ↔ Reordered v w) ∧ (Reordered v w → op.wireBytes = op'.wireBytes)) ∧
          ∀ op, make v = .ok op →
            (∀ x ∈ specification :: kind :: method :: signature :: proofType :: previous.toList,
              Plain fits x) → ((∃ bytes, op.wireBytes = .ok bytes) ↔ op.toJson.IsWritable) := by
  have htext : Reordered v w → v.canonical = w.canonical := fun hr => hr.canonical_eq hv
  refine ⟨hv.canonical_isOk_iff, htext, fun hwritable => ⟨fun hsame => ?_, htext⟩, ?_⟩
  · have hs := hv.canonical_eq hwritable
    have ht := (canonical_eq_ok_iff.mp (hsame.symm.trans hs)).2
    exact (render_eq_iff hv hw).mp ht
  intro specification kind previous method signature proofType
  refine ⟨forDocument_isOk_iff _ _ _ _ _ _ hv, forDocument_congr _ _ _ _ _ _ hv, ?_, ?_⟩
  · intro op op' hop hop'
    obtain rfl := eq_carrying _ _ _ _ _ _ hv hop
    obtain rfl := eq_carrying _ _ _ _ _ _ hw hop'
    refine ⟨⟨fun hpayload => (render_eq_iff hv hw).mp ?_, fun hr => ?_⟩, fun hr => ?_⟩
    · exact digitsOf_injective (Text.ofChars_injective (Json.str.inj hpayload))
    · rw [digitsOf_congr hv hr]
    · rw [digitsOf_congr hv hr]
  · intro op hop h
    obtain rfl := eq_carrying _ _ _ _ _ _ hv hop
    have hplain : Plain fits
        (carrying specification kind previous (digitsOf v) method signature proofType).toJson := by
      refine plain_toJson ?_
      simp only [parts, carrying, List.forall_mem_cons] at h ⊢
      exact ⟨h.1, h.2.1, .str (Text.isWellFormed_ofChars _), h.2.2⟩
    exact wireBytes_isOk_iff hplain

end

/-- A document. -/
def deed : Json := .obj [("id", .str "did:elastos:abc"), ("keys", .arr [.int (-1), .bool true, .null])]

/-- The same document with its members the other way round. -/
def deedTurned : Json := .obj [("keys", .arr [.int (-1), .bool true, .null]), ("id", .str "did:elastos:abc")]

theorem plain_deed {fits : Int → Prop} (h : fits (-1)) : Plain fits deed ∧ Plain fits deedTurned := by
  have keys : Plain fits (.arr [.int (-1), .bool true, .null]) :=
    .arr (by simp [Plain.int h, Plain.bool, Plain.null])
  have id : Plain fits (.str "did:elastos:abc") := .str (Text.isWellFormed_ofString _)
  constructor
  · exact .obj (by decide) (by simp [Text.isWellFormed_ofString]) (by simp [keys, id])
  · exact .obj (by decide) (by simp [Text.isWellFormed_ofString]) (by simp [keys, id])

theorem reordered_deed : Reordered deed deedTurned :=
  .obj rfl (List.forall₂_same.mpr fun x _ => .same x) (List.Perm.swap _ _ _)

theorem isShort_minusOne : IsShort (-1) := by
  rw [IsShort, Text.decimal, if_pos (by decide)]
  decide

section

attribute [local instance] Platform.usual

theorem writable_deed : deed.IsWritable := ⟨(plain_deed isShort_minusOne).1.allShort, by decide⟩

theorem forDocument_canonical_deed :
    (Plain IsShort deed ∧ Plain IsShort deedTurned) ∧ deed.IsWritable ∧ Reordered deed deedTurned ∧
      ∃ s, deed.canonical = .ok s ∧ deedTurned.canonical = .ok s := by
  have h : Plain IsShort deed ∧ Plain IsShort deedTurned := plain_deed isShort_minusOne
  obtain ⟨hwritten, hsame, -⟩ := forDocument_canonical h.1 h.2
  obtain ⟨s, hs⟩ := hwritten.mpr writable_deed
  exact ⟨h, writable_deed, reordered_deed, s, hs, (hsame reordered_deed).symm.trans hs⟩

end

/-! ## Reading a document out -/

section

variable [Platform] {document : Json} (specification kind : Json) (previous : Option Json)
  (method signature proofType : Json)

omit [Platform] in
theorem textOf_encode (cs : List Char) : Payload.textOf (Text.Utf8.encode cs) = .ok cs := by
  rw [Payload.textOf, Text.Utf8.decode_encode]

/-- What is read from the payload is what is read from the canonical text. -/
theorem payloadObject_eq :
    (carrying specification kind previous (digitsOf document) method signature proofType).payloadObject =
      Payload.objectOf (Text.Utf8.encode document.render) := by
  rw [payloadObject, carrying, Payload.bytesOf, Payload.bytes, Text.chars_ofChars, digitsOf,
    Text.Base64.decode_encode]
  rfl

theorem payloadObject_readable {ms : Members} (h : Plain IsShort (.obj ms))
    (hd : (Json.obj ms).depth ≤ Platform.readRoom) :
    ∃ ns, (carrying specification kind previous (digitsOf (.obj ms)) method signature
      proofType).payloadObject = .ok ns ∧ Reordered (.obj ms) (.obj ns) := by
  refine ⟨inOrder (sortedMembers ms), ?_, reordered_sorted h⟩
  rw [payloadObject_eq, Payload.objectOf, textOf_encode]
  simp only [Text.ofChars, read_render (h.readable hd)]
  rfl

theorem payloadObject_tooDeep (h : Plain IsShort document) (hd : Platform.readRoom < document.depth) :
    (carrying specification kind previous (digitsOf document) method signature proofType).payloadObject =
      .error (.json .tooDeep) := by
  rw [payloadObject_eq, Payload.objectOf, textOf_encode]
  simp only [Text.ofChars, read_render_tooDeep h hd]

/-- **The document is read out of the payload, up to the order of members**, when its whole numbers are short
and its lists and objects lie no deeper in one another than can be written and read.  One that is too deep to
be written makes no operation; one that is written and too deep to be read is refused when it is.  The payload
is made of digits of the URL alphabet. -/
theorem forDocument_readBack {ms : Members} (h : Plain IsShort (.obj ms)) :
    ((Json.obj ms).depth ≤ Platform.writeRoom →
      ∃ op digits, forDocument specification kind previous (.obj ms) method signature proofType = .ok op ∧
        op.payload = .str (Text.ofChars digits) ∧ (∀ c ∈ digits, c ∈ Text.Base64.alphabet) ∧
        ((Json.obj ms).depth ≤ Platform.readRoom →
          ∃ ns, op.payloadObject = .ok ns ∧ Reordered (.obj ms) (.obj ns)) ∧
        (Platform.readRoom < (Json.obj ms).depth → op.payloadObject = .error (.json .tooDeep))) ∧
      (Platform.writeRoom < (Json.obj ms).depth →
        forDocument specification kind previous (.obj ms) method signature proofType = .error .tooDeep) := by
  refine ⟨fun hd => ?_, fun hd => forDocument_error _ _ _ _ _ _ (h.canonical_tooDeep hd)⟩
  exact ⟨_, _, forDocument_eq _ _ _ _ _ _ h ⟨h.allShort, hd⟩, rfl, Text.Base64.mem_encode,
    payloadObject_readable _ _ _ _ _ _ h, payloadObject_tooDeep _ _ _ _ _ _ h⟩

end

section

attribute [local instance] Platform.usual

theorem forDocument_readBack_deed :
    Plain IsShort deed ∧ deed.depth ≤ Platform.writeRoom ∧ deed.depth ≤ Platform.readRoom ∧
      ∃ op ns, forDocument (.str "elastos/did/1.0") (.str "create") none deed (.str "#primary") (.str "c2ln")
          (.str "ECDSAsecp256r1") = .ok op ∧ op.payloadObject = .ok ns ∧ Reordered deed (.obj ns) := by
  have h : Plain IsShort deed := (plain_deed isShort_minusOne).1
  have hwrite : deed.depth ≤ Platform.writeRoom := by decide
  have hread : deed.depth ≤ Platform.readRoom := by decide
  obtain ⟨hmade, -⟩ := forDocument_readBack (.str "elastos/did/1.0") (.str "create") none (.str "#primary")
    (.str "c2ln") (.str "ECDSAsecp256r1") h
  obtain ⟨op, -, hop, -, -, hback, -⟩ := hmade hwrite
  obtain ⟨ns, hns, hr⟩ := hback hread
  exact ⟨h, hwrite, hread, op, ns, hop, hns, hr⟩

end

/-- Lists in one another, `n` of them around an empty one. -/
def nested : Nat → Json
  | 0 => .arr []
  | n + 1 => .arr [nested n]

theorem depth_nested (n : Nat) : (nested n).depth = n + 1 := by
  induction n with
  | zero => rfl
  | succ n ih => simp only [nested, depth, depthItems, ih, Nat.max_zero]

theorem plain_nested {fits : Int → Prop} (n : Nat) : Plain fits (nested n) := by
  induction n with
  | zero => exact .arr (by simp)
  | succ n ih => exact .arr (by simpa using ih)

/-- A document that lists lie in, deeper than `n`. -/
def shaft (n : Nat) : Members := [("id", .str "did:elastos:abc"), ("x", nested n)]

theorem depth_shaft (n : Nat) : (Json.obj (shaft n)).depth = n + 2 := by
  simp only [shaft, depth, depthMembers, depth_nested, Nat.max_zero, Nat.zero_max]

theorem plain_shaft {fits : Int → Prop} (n : Nat) : Plain fits (.obj (shaft n)) :=
  .obj (show (["id", "x"] : List Text).Nodup by decide) (by simp [shaft, Text.isWellFormed_ofString])
    (by simp [shaft, plain_nested, Plain.str, Text.isWellFormed_ofString])

section

variable [Platform] {n : Nat} (specification kind : Json) (previous : Option Json)
  (method signature proofType : Json)

theorem forDocument_shaft (h : Platform.writeRoom ≤ n) :
    forDocument specification kind previous (.obj (shaft n)) method signature proofType = .error .tooDeep :=
  forDocument_error _ _ _ _ _ _ ((plain_shaft n).canonical_tooDeep (by rw [depth_shaft]; omega))

theorem payloadObject_shaft (h : Platform.readRoom ≤ n) {op : Operation Json}
    (hop : forDocument specification kind previous (.obj (shaft n)) method signature proofType = .ok op) :
    op.payloadObject = .error (.json .tooDeep) := by
  rw [eq_carrying _ _ _ _ _ _ (@plain_shaft IsShort n) hop]
  exact payloadObject_tooDeep _ _ _ _ _ _ (plain_shaft n) (by rw [depth_shaft]; omega)

end

/-- **On no platform is every document read out of the operation that it makes**: one document makes none, and
an operation that another one makes is refused when its payload is read. -/
theorem not_readBack_shaft :
    (¬∃ _ : Platform, ∀ ms : Members, Plain IsShort (.obj ms) →
      ∃ op ns, forDocument (.str "elastos/did/1.0") (.str "create") none (.obj ms) (.str "#primary")
          (.str "c2ln") (.str "ECDSAsecp256r1") = .ok op ∧ op.payloadObject = .ok ns ∧
        Reordered (.obj ms) (.obj ns)) ∧
      ∀ (_ : Platform) (op : Operation Json),
        forDocument (.str "elastos/did/1.0") (.str "create") none (.obj (shaft Platform.readRoom))
          (.str "#primary") (.str "c2ln") (.str "ECDSAsecp256r1") = .ok op →
        op.payloadObject = .error (.json .tooDeep) := by
  constructor
  · rintro ⟨_, h⟩
    obtain ⟨op, ns, hop, -, -⟩ := h (shaft Platform.writeRoom) (plain_shaft _)
    cases hop.symm.trans (forDocument_shaft _ _ _ _ _ _ (Nat.le_refl _))
  · intro _ op hop
    exact payloadObject_shaft _ _ _ _ _ _ (Nat.le_refl _) hop

end Operation

end DidRegistry
