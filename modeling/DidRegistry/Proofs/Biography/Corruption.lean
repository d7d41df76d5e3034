import DidRegistry.Platform.Usual
import DidRegistry.Proofs.Biography.Payload
import DidRegistry.Proofs.Biography.RoundTrip
import DidRegistry.Proofs.Biography.Subject
import DidRegistry.Proofs.Json.Edit

/-!
# One corrupt payload

In the value of a biography that is read, one payload is exchanged for another.  The value keeps its form,
and its transactions their order, so that only the check of that payload can come out differently.  Where
the new payload is not sound, the biography is refused, and the refusal names the transaction by its
number and its hash, and the failure of that transaction as its cause.  What passes that check without
being sound, or fails it in the reader's own words, is set out with the payloads.

## Results

* `Entry.ofJson_amendPayload` — a transaction is read with the payload that is put in.
* `Biography.checkEntries_modify`, `Biography.checkOrder_modify` — of all checks only that of the payload
  can come out differently.
* `Biography.ofJson_amendPayload` — **changing one payload changes nothing but what becomes of that payload**.
* `Biography.amended_blamed_iff` — **a payload that is not sound is blamed on its transaction**, unless it
  is too deep or has padding behind whole groups.
-/

set_option autoImplicit false

namespace DidRegistry

/-! ## Another payload -/

namespace Entry

/-- The entry with another payload. -/
def withPayload (p : Text) (r : Entry) : Entry := { r with operation := { r.operation with payload := p } }

/-- The value of an entry with another payload. -/
def amendPayload (p : Text) : Json → Json := Json.amend "operation" (Json.amend "payload" fun _ => .str p)

end Entry

namespace Operation

variable {v : Json} {key : Text} {f : Json → Json}

theorem member_amend_self (v : Json) (key : String) :
    member (v.amend key f) key = (member v key).map f := by
  cases v with
  | obj ms =>
    simp only [Json.amend, member, Json.Members.get?_amend, if_true]
    cases Json.Members.get? ms key <;> rfl
  | _ => rfl

theorem member_amend_of_ne {other : String} (h : Text.ofString other ≠ key) (v : Json) :
    member (v.amend key f) other = member v other := by
  cases v with
  | obj ms => simp only [Json.amend, member, Json.Members.get?_amend, if_neg h]
  | _ => rfl

theorem ofJson_amend {op : Operation Json} (h : ofJson v = .ok op) (p : Json) :
    ofJson (v.amend "payload" fun _ => p) = .ok { op with payload := p } := by
  unfold ofJson at h ⊢
  obtain ⟨header, hheader, h⟩ := bind_eq_ok.mp h
  obtain ⟨proof, hproof, h⟩ := bind_eq_ok.mp h
  obtain ⟨specification, hspecification, h⟩ := bind_eq_ok.mp h
  obtain ⟨kind, hkind, h⟩ := bind_eq_ok.mp h
  obtain ⟨payload, hpayload, h⟩ := bind_eq_ok.mp h
  obtain ⟨method, hmethod, h⟩ := bind_eq_ok.mp h
  obtain ⟨signature, hsignature, h⟩ := bind_eq_ok.mp h
  cases h
  have hself : member (v.amend "payload" fun _ => p) "payload" = .ok p := by
    rw [member_amend_self, hpayload]
    rfl
  rw [member_amend_of_ne (by decide), member_amend_of_ne (by decide), hheader, hproof, hself]
  simp only [hspecification, hkind, hmethod, hsignature, bind, Except.bind]
  rfl

end Operation

namespace Entry

theorem schema_amendPayload {v : Json} (h : schema.firstFault v = none) (p : Text) :
    schema.firstFault (amendPayload p v) = none := by
  rw [Schema.firstFault_eq_none_iff] at h ⊢
  refine Schema.object_faults_amend h fun q hq hkey x hx => ?_
  simp only [List.mem_cons, List.not_mem_nil, or_false] at hq
  rcases hq with rfl | rfl | rfl
  · exact absurd hkey (by decide)
  · exact absurd hkey (by decide)
  refine Schema.object_faults_amend hx fun q hq hkey _ _ => ?_
  simp only [List.mem_cons, List.not_mem_nil, or_false] at hq
  rcases hq with rfl | rfl | rfl
  · exact absurd hkey (by decide)
  · rfl
  · exact absurd hkey (by decide)

/-- An entry is read with another payload when the payload of its value is changed. -/
theorem ofJson_amendPayload {v subject : Json} {r : Entry} (h : ofJson v subject = .ok r) (p : Text) :
    ofJson (amendPayload p v) subject = .ok (r.withPayload p) := by
  unfold ofJson at h ⊢
  split at h
  · cases h
  rename_i hfit
  obtain ⟨_, _, operation, op, -, -, hoperation, hop⟩ := hasFields hfit
  have htxid : (amendPayload p v).get? "txid" = v.get? "txid" := Json.get?_amend_of_ne (by decide) v
  have htime : (amendPayload p v).get? "timestamp" = v.get? "timestamp" := Json.get?_amend_of_ne (by decide) v
  have hamended : (amendPayload p v).get? "operation" = some (operation.amend "payload" fun _ => .str p) := by
    rw [amendPayload, Json.get?_amend_self, hoperation]
    rfl
  rw [hoperation, Option.getD_some, hop] at h
  rw [schema_amendPayload hfit, htxid, htime, hamended, Option.getD_some, Operation.ofJson_amend hop]
  dsimp only
  split at h
  · cases h
  · cases h
    rfl

/-- Nothing but the payload is looked at where it is changed. -/
theorem check_withPayload [Platform] {variety : Variety} {subject : Json} {r : Entry}
    (h : r.check variety subject = .ok ())
    (p : Text) : (r.withPayload p).check variety subject =
      ((r.withPayload p).checkPayload variety subject).mapError (.payload r.txid) := by
  unfold check at h ⊢
  split at h
  · cases h
  rename_i hash
  split at h
  · cases h
  rename_i about
  split at h
  · cases h
  rename_i zoned
  split at h
  · cases h
  rename_i specification
  split at h
  · cases h
  rename_i known
  split at h
  · cases h
  rw [if_neg (by exact hash), if_neg (by exact about), if_neg (by exact zoned),
    if_neg (by exact specification),
    if_neg (by exact known)]
  cases (r.withPayload p).checkPayload variety subject with
  | error fault => rfl
  | ok u => exact h

end Entry

/-- The error blames the transaction with this number and this hash: an invalid transaction is refused,
both are named, and it was raised from the refusal of a malformed one. -/
def BiographyError.Blames [Platform] (e : BiographyError) (subject : Json) (index : Nat) (txid : Text) :
    Prop :=
  ∃ cause : EntryError, cause.IsMalformed ∧
    e.report = (refusal "invalid transaction"
      [("id", subject), ("index", .int index), ("txid", .str txid)]).because cause.report

namespace Biography

variable {variety : Variety} {subject : Json} {i : Nat} {r : Entry} {p : Text}

/-- The value of a biography with another payload in its transaction number `i`. -/
def amendPayload (i : Nat) (p : Text) (v : Json) : Json :=
  v.amend "transaction" (Json.amendItem i (Entry.amendPayload p))

/-- The biography with another payload in its transaction number `i`. -/
def withPayload (i : Nat) (p : Text) (b : Biography) : Biography :=
  { b with entries := b.entries.modify i (Entry.withPayload p) }

theorem ofJson_of_partsOf [Platform] {v : Json} {b : Biography} (h : PartsOf v b) :
    ofJson b.variety v = b.checked := by
  obtain ⟨⟨ms, rfl⟩, hsubject, hstatus, items, hitems, hentries⟩ := h
  unfold ofJson
  simp only [hsubject, hstatus, hitems, hentries, bind, Except.bind]

theorem readEntries_modify {index : Nat} {items : List Json} {rs : List Entry}
    (h : readEntries subject index items = .ok rs) (i : Nat) (p : Text) :
    readEntries subject index (items.modify i (Entry.amendPayload p)) =
      .ok (rs.modify i (Entry.withPayload p)) := by
  rw [readEntries_eq_ok_iff] at h ⊢
  induction h generalizing i with
  | nil => simp
  | cons hr hrs ih =>
    cases i with
    | zero => exact .cons (Entry.ofJson_amendPayload hr p) hrs
    | succ i => exact .cons hr (ih i)

theorem entriesOf_amendPayload {v : Json} {items : List Json} (h : entriesOf subject v = .ok items) (i : Nat)
    (p : Text) : entriesOf subject (amendPayload i p v) = .ok (items.modify i (Entry.amendPayload p)) := by
  unfold entriesOf at h ⊢
  rw [amendPayload, Json.get?_amend_self]
  cases hget : v.get? "transaction" with
  | none =>
    rw [hget] at h
    cases h
    simp
  | some x =>
    rw [hget] at h
    cases x with
    | null =>
      cases h
      simp [Json.amendItem]
    | arr items =>
      cases h
      rfl
    | _ => cases h

theorem partsOf_amendPayload {v : Json} {b : Biography} (h : PartsOf v b) (i : Nat) (p : Text) :
    PartsOf (amendPayload i p v) (b.withPayload i p) := by
  obtain ⟨⟨ms, rfl⟩, hsubject, hstatus, items, hitems, hentries⟩ := h
  have hother : ∀ {key : Text}, key ≠ "transaction" →
      (amendPayload i p (.obj ms)).get? key = (Json.obj ms).get? key :=
    fun hkey => Json.get?_amend_of_ne hkey _
  have hkey : Text.ofString b.variety.subjectKey ≠ "transaction" := by cases b.variety <;> decide
  refine ⟨⟨_, rfl⟩, ?_, ?_, _, entriesOf_amendPayload hitems i p, readEntries_modify hentries i p⟩
  · unfold subjectOf at hsubject ⊢
    rwa [withPayload, hother hkey]
  · unfold statusOf at hstatus ⊢
    rwa [hother (by decide)]

/-- Where all entries pass, the payload that is put in is all that can be refused. -/
theorem checkEntries_modify [Platform] {index : Nat} {entries : List Entry}
    (h : checkEntries variety subject index entries = .ok ()) (hr : entries[i]? = some r) :
    checkEntries variety subject index (entries.modify i (Entry.withPayload p)) =
      ((r.withPayload p).checkPayload variety subject).mapError fun fault =>
        .unsuitable subject (index + i : Nat) r.txid (.payload r.txid fault) := by
  induction entries generalizing index i with
  | nil => cases hr
  | cons x xs ih =>
    unfold checkEntries at h
    split at h
    · cases h
    rename_i hx
    cases i with
    | zero =>
      obtain rfl : x = r := Option.some.inj hr
      rw [List.modify_zero_cons, checkEntries, Entry.check_withPayload hx]
      cases (x.withPayload p).checkPayload variety subject with
      | error fault => rfl
      | ok u => exact h
    | succ i =>
      rw [List.modify_succ_cons, checkEntries, hx]
      have hrest := ih h hr
      rwa [Nat.succ_add_eq_add_succ] at hrest

/-- The order of entries does not depend on their payloads. -/
theorem checkOrder_modify {index : Nat} {entries : List Entry} (h : checkOrder subject index entries = .ok ())
    (i : Nat) (p : Text) : checkOrder subject index (entries.modify i (Entry.withPayload p)) = .ok () := by
  rw [checkOrder_eq_ok_iff, List.isChain_iff_getElem] at h ⊢
  intro j hj
  have hsame : ∀ (k : Nat) (x : Entry),
      (if i = k then x.withPayload p else x).timestamp = x.timestamp ∧
        (if i = k then x.withPayload p else x).txid = x.txid ∧
        (if i = k then x.withPayload p else x).operation.previous = x.operation.previous := by
    intro k x
    split <;> exact ⟨rfl, rfl, rfl⟩
  rw [List.length_modify] at hj
  obtain ⟨ordered, chained⟩ := h j hj
  simp only [List.getElem_modify]
  exact ⟨by rwa [(hsame _ _).1, (hsame _ _).1], by rwa [(hsame _ _).2.1, (hsame _ _).2.2]⟩

theorem check_eq [Platform] {b : Biography} {s : String} (present : b.subject.isPresent = true)
    (identified : identifierOf b.variety b.subject = .ok s) (found : b.status ≠ .notFound)
    (nonempty : b.entries ≠ []) :
    b.check = (checkEntries b.variety b.subject 0 b.entries).bind fun _ =>
      checkOrder b.subject 1 b.entries := by
  have hsome : b.entries.isEmpty = false := List.isEmpty_eq_false_iff.mpr nonempty
  unfold check
  simp only [present, identified, if_neg found, hsome, Bool.not_true, Bool.false_eq_true, if_false]
  cases checkEntries b.variety b.subject 0 b.entries <;> rfl

theorem check_eq_ok [Platform] {b : Biography} (h : b.check = .ok ()) (nonempty : b.entries ≠ []) :
    b.subject.isPresent = true ∧ (∃ s, identifierOf b.variety b.subject = .ok s) ∧ b.status ≠ .notFound := by
  obtain ⟨⟨t, owner, ht, howner, -⟩, found, -, -⟩ := check_eq_ok_iff.mp h
  rw [ht]
  exact ⟨isPresent_of_ownerOf howner, identifierOf_eq_ok_iff.mpr ⟨t, owner, rfl, howner⟩,
    mt found.mp nonempty⟩

theorem check_withPayload [Platform] {b : Biography} (h : b.check = .ok ()) (hr : b.entries[i]? = some r)
    (p : Text) :
    (b.withPayload i p).check =
      ((r.withPayload p).checkPayload b.variety b.subject).mapError fun fault =>
        .unsuitable b.subject i r.txid (.payload r.txid fault) := by
  obtain ⟨hi, -⟩ := List.getElem?_eq_some_iff.mp hr
  have nonempty : b.entries ≠ [] := List.ne_nil_of_length_pos (Nat.zero_lt_of_lt hi)
  have nonempty' : (b.withPayload i p).entries ≠ [] :=
    List.ne_nil_of_length_pos (by rw [withPayload, List.length_modify]; exact Nat.zero_lt_of_lt hi)
  obtain ⟨present, ⟨s, identified⟩, found⟩ := check_eq_ok h nonempty
  rw [check_eq present identified found nonempty] at h
  obtain ⟨_, hentries, horder⟩ := bind_eq_ok.mp h
  rw [check_eq (b := b.withPayload i p) present identified found nonempty']
  dsimp only [withPayload]
  rw [checkEntries_modify hentries hr, checkOrder_modify horder, Nat.zero_add]
  cases (r.withPayload p).checkPayload b.variety b.subject <;> rfl

/-- **Changing one payload of a biography that was read changes nothing but what becomes of that payload.** -/
theorem ofJson_amendPayload [Platform] {v : Json} {b : Biography} (h : ofJson variety v = .ok b)
    (hr : b.entries[i]? = some r) (p : Text) :
    ofJson variety (amendPayload i p v) =
      (((r.withPayload p).checkPayload variety b.subject).mapError fun fault =>
        .unsuitable b.subject i r.txid (.payload r.txid fault)).map fun _ => b.withPayload i p := by
  obtain ⟨rfl, hparts, hcheck⟩ := ofJson_eq_ok_iff.mp h
  rw [← check_withPayload hcheck hr]
  exact ofJson_of_partsOf (partsOf_amendPayload hparts i p)

/-! ## Unsound payloads -/

section

variable [Platform] {v : Json} {b : Biography} (h : ofJson variety v = .ok b) (hr : b.entries[i]? = some r)

include h hr

theorem amended_tooDeep (hdeep : Payload.IsTooDeep variety r.operation.kind p) :
    ∃ e, ofJson variety (amendPayload i p v) = .error e ∧ e.report.kind = .tooDeep := by
  obtain ⟨t, s, hsubject, -⟩ := subject_text h
  have hpayload : (r.withPayload p).checkPayload variety b.subject = .error (.unreadable (.json .tooDeep)) :=
    hsubject ▸ Entry.checkPayload_tooDeep_iff.mpr hdeep
  refine ⟨.unsuitable b.subject i r.txid (.payload r.txid (.unreadable (.json .tooDeep))), ?_, rfl⟩
  rw [ofJson_amendPayload h hr, hpayload]
  rfl

theorem amended_of_carries {bytes : List UInt8} (hbytes : Payload.bytes p = .ok bytes)
    (hcarries : Payload.Carries variety b.subject r.operation.kind bytes)
    (hdeep : ¬Payload.IsTooDeep variety r.operation.kind p) :
    ofJson variety (amendPayload i p v) = .ok (b.withPayload i p) := by
  obtain ⟨t, s, hsubject, -⟩ := subject_text h
  rw [hsubject] at hcarries
  have hfits : (r.withPayload p).operation.Fits variety t := Operation.fits_of_carries hbytes hcarries hdeep
  have hpayload : (r.withPayload p).checkPayload variety b.subject = .ok () :=
    hsubject ▸ Entry.checkPayload_eq_ok_iff.mpr hfits
  rw [ofJson_amendPayload h hr, hpayload]
  rfl

theorem amended_blamed (hsound : ¬Payload.IsSound variety b.subject r.operation.kind p)
    (hfull : ¬Payload.IsOverfull variety b.subject r.operation.kind p)
    (hdeep : ¬Payload.IsTooDeep variety r.operation.kind p) :
    ∃ e, ofJson variety (amendPayload i p v) = .error e ∧ e.Blames b.subject i r.txid := by
  obtain ⟨t, s, hsubject, -⟩ := subject_text h
  have hamended := ofJson_amendPayload h hr p
  rw [hsubject] at hsound hfull hamended ⊢
  cases hpayload : (r.withPayload p).checkPayload variety (.str t) with
  | ok u =>
    rcases (Entry.checkPayload_eq_ok_iff.mp hpayload).isSound_or with hs | hf
    · exact (hsound hs).elim
    · exact (hfull hf).elim
  | error fault =>
    have hfault : fault ≠ .unreadable (.json .tooDeep) := by
      rintro rfl
      exact hdeep (Entry.checkPayload_tooDeep_iff.mp hpayload)
    have hcause : (EntryError.payload r.txid fault).IsMalformed :=
      EntryError.isMalformed_payload hfault ((PayloadFault.kind_of_checkPayload hpayload).resolve_left hfault)
    rw [hpayload] at hamended
    exact ⟨_, hamended, _, hcause, if_pos hcause.isRefusal⟩

/-- **A payload that is not sound is blamed on its transaction, unless it is too deep or overfull.**  One
that is too deep is refused otherwise, and one that is overfull, but not too deep, is accepted. -/
theorem amended_blamed_iff (hsound : ¬Payload.IsSound variety b.subject r.operation.kind p) :
    ((∃ e, ofJson variety (amendPayload i p v) = .error e ∧ e.Blames b.subject i r.txid) ↔
        ¬(Payload.IsTooDeep variety r.operation.kind p ∨
          Payload.IsOverfull variety b.subject r.operation.kind p)) ∧
      (Payload.IsTooDeep variety r.operation.kind p →
        ∃ e, ofJson variety (amendPayload i p v) = .error e ∧ e.report.kind = .tooDeep) ∧
      (Payload.IsOverfull variety b.subject r.operation.kind p →
        ¬Payload.IsTooDeep variety r.operation.kind p →
          ofJson variety (amendPayload i p v) = .ok (b.withPayload i p)) := by
  have hdeepened := amended_tooDeep (i := i) (p := p) h hr
  have haccepted : Payload.IsOverfull variety b.subject r.operation.kind p →
      ¬Payload.IsTooDeep variety r.operation.kind p →
        ofJson variety (amendPayload i p v) = .ok (b.withPayload i p) := by
    rintro ⟨bytes, hfull, hcarries⟩ hdeep
    exact amended_of_carries h hr (Payload.bytes_eq_ok_iff.mpr (.inr hfull)) hcarries hdeep
  refine ⟨⟨?_, ?_⟩, hdeepened, haccepted⟩
  · rintro ⟨e, he, cause, -, hreport⟩ hexcepted
    by_cases hdeep : Payload.IsTooDeep variety r.operation.kind p
    · obtain ⟨e', he', hkind⟩ := hdeepened hdeep
      cases he.symm.trans he'
      rw [hreport] at hkind
      cases hkind
    · cases he.symm.trans (haccepted (hexcepted.resolve_left hdeep) hdeep)
  · intro hnot
    exact amended_blamed h hr hsound (fun hfull => hnot (.inr hfull)) fun hdeep => hnot (.inl hdeep)

end

section

attribute [local instance] Platform.usual

/-- The value of the biography of a DID that has been deactivated. -/
def closedValue : Json :=
  closed.value [Entry.created.value "2024-03-01T10:00:00Z", Entry.deactivated.value "2024-03-02T10:00:00Z"]

theorem ofJson_closedValue : ofJson .did closedValue = .ok closed := toOption_eq_some.mp (by decide +kernel)

/-- A payload in the other alphabet is blamed on the second transaction when it is put in there. -/
theorem amended_blamed_iff_foreign :
    ofJson .did closedValue = .ok closed ∧ closed.entries[1]? = some .deactivated ∧
      ¬Payload.IsSound .did closed.subject Entry.deactivated.operation.kind "a+b/" ∧
      ∃ e, ofJson .did (amendPayload 1 "a+b/" closedValue) = .error e ∧
        e.Blames (.str "did:example:123") 1 Entry.deactivated.txid := by
  have hunread : ∀ bytes, ¬(Text.Base64.Spells (Text.chars "a+b/") bytes ∨
      Text.Base64.Overfull (Text.chars "a+b/") bytes) := by
    intro bytes hspelled
    have hread := Payload.bytes_eq_ok_iff.mpr hspelled
    have herror : Payload.bytes "a+b/" = .error (.base64 .plusOrSlash) := by decide +kernel
    cases herror.symm.trans hread
  have hsound : ¬Payload.IsSound .did closed.subject Entry.deactivated.operation.kind "a+b/" :=
    fun ⟨bytes, hspells, _⟩ => hunread bytes (.inl hspells)
  refine ⟨ofJson_closedValue, rfl, hsound, (amended_blamed_iff ofJson_closedValue rfl hsound).1.mpr ?_⟩
  rintro (⟨-, cs, hspelled, -⟩ | ⟨bytes, hfull, -⟩)
  · exact hunread _ hspelled
  · exact hunread bytes (.inr hfull)

theorem not_isSound_padded (subject : Json) (kind : Text) :
    ¬Payload.IsSound .did subject kind "ZGlkOmV4YW1wbGU6MTIz=" := by
  rintro ⟨bytes, hspells, -⟩
  let bytes := Text.Utf8.encode "did:example:123".toList
  have hchars : Text.chars "ZGlkOmV4YW1wbGU6MTIz=" = Text.Base64.encode bytes ++ List.replicate 1 '=' := by
    decide +kernel
  have hfull : Text.Base64.Overfull (Text.Base64.encode bytes ++ List.replicate 1 '=') bytes :=
    .intro Text.Base64.mem_encode rfl (by decide +kernel) (by decide +kernel) Nat.one_pos
  rw [hchars] at hspells
  exact hfull.not_spells hspells

/-- **The subject with padding behind whole groups of digits is accepted where it is put in**, though it is no
base64, so that no transaction is blamed for it. -/
theorem not_amended_blamed_padded :
    ofJson .did closedValue = .ok closed ∧
      ¬Payload.IsSound .did closed.subject Entry.deactivated.operation.kind "ZGlkOmV4YW1wbGU6MTIz=" ∧
      ofJson .did (amendPayload 1 "ZGlkOmV4YW1wbGU6MTIz=" closedValue) =
        .ok (closed.withPayload 1 "ZGlkOmV4YW1wbGU6MTIz=") ∧
      ¬∃ e, ofJson .did (amendPayload 1 "ZGlkOmV4YW1wbGU6MTIz=" closedValue) = .error e ∧
        e.Blames (.str "did:example:123") 1 Entry.deactivated.txid := by
  have haccepted : ofJson .did (amendPayload 1 "ZGlkOmV4YW1wbGU6MTIz=" closedValue) =
      .ok (closed.withPayload 1 "ZGlkOmV4YW1wbGU6MTIz=") := toOption_eq_some.mp (by decide +kernel)
  refine ⟨ofJson_closedValue, not_isSound_padded _ _, haccepted, ?_⟩
  rintro ⟨e, he, -⟩
  cases haccepted.symm.trans he

end

end Biography

end DidRegistry
