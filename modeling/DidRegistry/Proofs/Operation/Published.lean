import DidRegistry.Operation.Basic
import DidRegistry.Proofs.Json.Writable
import DidRegistry.Proofs.Ledger.CallData
import DidRegistry.Proofs.Outcome

/-!
# Published operations

What is published of an operation is its canonical JSON, as call data.  Reading it back takes the way in
the opposite direction: call data to bytes, bytes to JSON, JSON to an operation.

## Results

* `Operation.ofJson_toJson` — an operation is read from its value.
* `Operation.ofJson_sorted` — **the order of the members of a value does not matter to the operation**.
* `Operation.wireBytes_eq` — every operation of texts has canonical bytes and call data.
* `Operation.ofJson_wireBytes` — it is read from its bytes.
* `Operation.published_readBack` — **what is published can be read back**, and operations that are
  published as the same call data are the same.
-/

set_option autoImplicit false

namespace DidRegistry

theorem Text.ofString_inj {s t : String} (h : ofString s = ofString t) : s = t :=
  String.toList_inj.mp (ofChars_injective h)

theorem Text.isWellFormed_ofString (s : String) : (ofString s).isWellFormed = true :=
  isWellFormed_ofChars s.toList

namespace Operation

open Json

/-- The operation of texts of characters as one of values. -/
def values (op : Operation String) : Operation Json := (op.map Text.ofString).toValues

theorem values_inj {op other : Operation String} (h : op.values = other.values) : op = other := by
  obtain ⟨specification, kind, previous, payload, method, signature, proofType⟩ := op
  obtain ⟨specification', kind', previous', payload', method', signature', proofType'⟩ := other
  have hstr : Function.Injective fun s : String => Json.str (Text.ofString s) :=
    fun _ _ h => Text.ofString_inj (Json.str.inj h)
  simp only [values, toValues, map, Option.map_map, mk.injEq] at h
  obtain ⟨h₁, h₂, h₃, h₄, h₅, h₆, h₇⟩ := h
  rw [hstr h₁, hstr h₂, Option.map_injective hstr h₃, hstr h₄, hstr h₅, hstr h₆, hstr h₇]

/-! ## From an operation to its value and back -/

/-- An operation is read from its value. -/
theorem ofJson_toJson {op : Operation Json} (h : op.previous ≠ some .null) :
    ofJson op.toJson = .ok op := by
  obtain ⟨specification, kind, previous, payload, method, signature, proofType⟩ := op
  cases previous with
  | none => rfl
  | some txid =>
    cases txid with
    | null => exact absurd rfl h
    | _ => rfl

section

variable {v x : Json} {room : Nat} {key : String}

theorem member_readable (h : Readable room v) (hx : member v key = .ok x) : Readable (room - 1) x := by
  cases v with
  | obj ms =>
    simp only [member] at hx
    split at hx
    · rename_i y hy
      cases hx
      exact (readableMembers_iff.mp h.2.2 _ ((get?_eq_some_iff h.2.1).mp hy)).2
    · cases hx
  | _ => cases hx

theorem get?_sorted_of_readable (h : Readable room v) (key : Text) :
    v.sorted.get? key = (v.get? key).map sorted := by
  cases v with
  | obj ms => exact get?_sorted h.2.1 key
  | _ => rfl

theorem member_sorted (h : Readable room v) : member v.sorted key = (member v key).map sorted := by
  cases v with
  | obj ms =>
    have hg := get?_sorted_of_readable h key
    simp only [sorted, get?] at hg
    simp only [sorted, member, hg]
    cases Members.get? ms key <;> rfl
  | _ => rfl

theorem present_sorted (v : Json) : present v.sorted = (present v).map sorted := by
  cases v <;> rfl

/-- **The order of the members of a value does not matter to the operation that it gives.** -/
theorem ofJson_sorted (h : Readable room v) :
    ofJson v.sorted = (ofJson v).map fun op => op.map sorted := by
  unfold ofJson
  simp only [member_sorted h]
  cases hheader : member v "header" with
  | error e => rfl
  | ok header =>
    cases hproof : member v "proof" with
    | error e => rfl
    | ok proof =>
      have hh := member_readable h hheader
      have hp := member_readable h hproof
      have hprevious : present (((header.get? "previousTxid").map sorted).getD .null) =
          (present ((header.get? "previousTxid").getD .null)).map sorted := by
        cases header.get? "previousTxid" with
        | none => rfl
        | some txid => exact present_sorted txid
      have htype : ((proof.get? "type").map sorted).getD (.str defaultProofType) =
          ((proof.get? "type").getD (.str defaultProofType)).sorted := by
        cases proof.get? "type" <;> rfl
      simp only [Except.map, bind, Except.bind, member_sorted hh, member_sorted hp,
        get?_sorted_of_readable hh, get?_sorted_of_readable hp, hprevious, htype]
      -- the first part that is missing is missing on both sides
      cases member header "specification" <;> try rfl
      cases member header "operation" <;> try rfl
      cases member v "payload" <;> try rfl
      cases member proof "verificationMethod" <;> try rfl
      cases member proof "signature" <;> rfl

end

/-! ## Operations of texts -/

theorem sorted_values (op : Operation String) : op.values.map sorted = op.values := by
  obtain ⟨_, _, _ | txid, _, _, _, _⟩ := op <;> rfl

theorem previous_values (op : Operation String) : op.values.previous ≠ some .null := by
  obtain ⟨_, _, _ | txid, _, _, _, _⟩ := op <;> simp [values, toValues, map]

theorem keys_nodup :
    (["header", "payload", "proof"].map Text.ofString).Nodup ∧
      (["specification", "operation", "previousTxid"].map Text.ofString).Nodup ∧
      (["type", "verificationMethod", "signature"].map Text.ofString).Nodup := by
  decide

/-- The parts of an operation. -/
def parts (op : Operation Json) : List Json :=
  op.specification :: op.kind :: op.payload :: op.method :: op.signature :: op.proofType :: op.previous.toList

theorem plain_toJson {fits : Int → Prop} {op : Operation Json} (h : ∀ x ∈ op.parts, Plain fits x) :
    Plain fits op.toJson := by
  have text (s : String) : (Text.ofString s).isWellFormed = true := Text.isWellFormed_ofString s
  obtain ⟨hparts, hheader, hproof⟩ := keys_nodup
  obtain ⟨specification, kind, previous, payload, method, signature, proofType⟩ := op
  simp only [parts, List.forall_mem_cons] at h
  obtain ⟨hspecification, hkind, hpayload, hmethod, hsignature, htype, hprevious⟩ := h
  have proof : Plain fits
      (.obj [("type", proofType), ("verificationMethod", method), ("signature", signature)]) :=
    .obj hproof (by simp [text]) (by simp [htype, hmethod, hsignature])
  have whole : ∀ header, Plain fits header → Plain fits (.obj [("header", header), ("payload", payload),
      ("proof", .obj [("type", proofType), ("verificationMethod", method), ("signature", signature)])]) :=
    fun header hh => .obj hparts (by simp [text]) (by simp [hh, hpayload, proof])
  cases previous with
  | none =>
    have header : Plain fits (.obj [("specification", specification), ("operation", kind)]) :=
      .obj (hheader.sublist (List.sublist_append_left [_, _] [_])) (by simp [text])
        (by simp [hspecification, hkind])
    exact whole _ header
  | some txid =>
    have htxid : Plain fits txid := hprevious txid (by simp)
    have header : Plain fits
        (.obj [("specification", specification), ("operation", kind), ("previousTxid", txid)]) :=
      .obj hheader (by simp [text]) (by simp [hspecification, hkind, htxid])
    exact whole _ header

theorem plain_values (op : Operation String) : Plain IsShort op.values.toJson := by
  refine plain_toJson ?_
  obtain ⟨_, _, _ | txid, _, _, _, _⟩ := op <;>
    simp [parts, values, toValues, map, Plain.str, Text.isWellFormed_ofString]

theorem depth_values (op : Operation String) : op.values.toJson.depth = 2 := by
  obtain ⟨_, _, _ | txid, _, _, _, _⟩ := op <;> rfl

variable [Platform]

theorem writable_values (op : Operation String) : op.values.toJson.IsWritable :=
  ⟨(plain_values op).allShort, (depth_values op).trans_le Platform.two_le_writeRoom⟩

theorem readable_values (op : Operation String) : Readable Platform.readRoom op.values.toJson :=
  (plain_values op).readable ((depth_values op).trans_le Platform.two_le_readRoom)

/-- The published bytes are the canonical text of the operation, and there are call data for them. -/
theorem wireBytes_eq (op : Operation String) :
    op.values.wireBytes = .ok (Text.Utf8.encode op.values.toJson.render) ∧
      ∃ data, CallData.encode (Text.Utf8.encode op.values.toJson.render) = .ok data := by
  have hdecode := Text.Utf8.decode_encode op.values.toJson.render
  refine ⟨(plain_values op).canonicalBytes_eq (writable_values op),
    CallData.encode_isOk_iff.mpr ⟨fun hempty => ?_, by rw [hdecode]; rfl⟩⟩
  obtain ⟨c, cs, hc, -⟩ := (plain_values op).sorted.write_opens
  rw [hempty, render_eq, hc] at hdecode
  cases hdecode

/-- The operation is read from its published bytes. -/
theorem ofJson_wireBytes {op : Operation String} {bytes : List UInt8}
    (h : op.values.wireBytes = .ok bytes) : ∃ v, readBody bytes = .ok v ∧ ofJson v = .ok op.values := by
  obtain rfl := Except.ok.inj ((wireBytes_eq op).1.symm.trans h)
  refine ⟨op.values.toJson.sorted, readBody_canonical (readable_values op), ?_⟩
  rw [ofJson_sorted (readable_values op), ofJson_toJson (previous_values op), Except.map, sorted_values]

/-- **What is published can be read back.**  Every operation of texts has canonical bytes and these have
call data.  The bytes are read from the call data, where their length takes 256 bits; the JSON of the bytes
gives the operation; and no other operation is published as the same call data, however long it is. -/
theorem published_readBack (op : Operation String) :
    ∃ bytes data v, op.values.wireBytes = .ok bytes ∧ CallData.encode bytes = .ok data ∧
      (bytes.length < 2 ^ 256 → CallData.decode data = .ok bytes) ∧
      readBody bytes = .ok v ∧ ofJson v = .ok op.values ∧
      ∀ other bytes', other.values.wireBytes = .ok bytes' → CallData.encode bytes' = .ok data →
        other = op := by
  obtain ⟨hbytes, data, hdata⟩ := wireBytes_eq op
  obtain ⟨v, hv, hop⟩ := ofJson_wireBytes hbytes
  refine ⟨_, data, v, hbytes, hdata, CallData.decode_encode hdata, hv, hop, ?_⟩
  intro other bytes' hother hsame
  obtain rfl := CallData.encode_inj hsame hdata
  obtain ⟨w, hw, hopw⟩ := ofJson_wireBytes hother
  obtain rfl := Except.ok.inj (hw.symm.trans hv)
  exact values_inj (Except.ok.inj (hopw.symm.trans hop))

end Operation

end DidRegistry
