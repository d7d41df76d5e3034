import DidRegistry.Platform.Usual
import DidRegistry.Proofs.Biography.WellFormed
import DidRegistry.Proofs.Json.Room
import DidRegistry.Proofs.Schema
import DidRegistry.Proofs.Text.Unpadded

/-!
# Why a biography is refused

Whatever value is read as a biography, what is wrong with it is said in one form: it is refused as
malformed, and the refusal names the failure that it was raised from.  The parts that are read have been held
against a schema before, so that no member can be missing, and what is checked of an entry is checked against
a subject that is a text.  Two things are not said in that form: a payload with a document whose values lie
too deep in one another, and a subject or a status that cannot be shown, as a whole number in it is too long
or it lies too deep, which no text is read as.

## Results

* `Entry.hasFields` — an entry that meets the schema has all that is read of it.
* `Entry.ofJson_error`, `Entry.check_error` — why an entry is refused.
* `Biography.ofJson_error` — **a value is refused as malformed, unless a payload lies too deep or something
  cannot be shown**.
* `Biography.ofJson_outcome` — so reading a value has no outcome but a well formed biography and a
  refusal; the members that are read are there, and only times with a zone are compared.
-/

set_option autoImplicit false

namespace DidRegistry

/-! ## Refusals and what they are raised from -/

/-- A failure is told as one of its kind, and it names what it was raised from, if it was raised from
anything: a failure of one of the kinds that are caught. -/
structure Report.Wraps (r : Report) (told : Kind) (caught : List Kind) (cause : Option Report) : Prop where
  kind_eq : r.kind = told
  cause_eq : r.cause = cause.map fun c => (c.kind, c.message)
  cause_caught : ∀ c ∈ cause, c.kind ∈ caught

theorem Report.wraps_because {r cause : Report} {told : Kind} {caught : List Kind} (h : r.kind = told)
    (hc : cause.kind ∈ caught) : (r.because cause).Wraps told caught (some cause) :=
  ⟨h, rfl, fun _ hm => Option.mem_some_iff.mp hm ▸ hc⟩

theorem Report.wraps_none {r : Report} {told : Kind} {caught : List Kind} (h : r.kind = told)
    (hc : r.cause = none) : r.Wraps told caught none :=
  ⟨h, hc, fun c hm => absurd hm (Option.not_mem_none c)⟩

namespace EntryError

/-- The failure that the error was raised from. -/
def cause? : EntryError → Option Report
  | .unfit _ _ => some (.silent .schema)
  | .timestamp _ => some (.silent .value)
  | .payload _ fault => some fault.report
  | .method _ _ e => some e.report
  | _ => none

/-- What may go wrong where an entry is read and checked: its form, its time, the base64, the text and the
JSON of its payload, and the identifier of its verification method. -/
def caught : List Kind := [.schema, .value, .undecodable, .jsonText, .malformedIdentifier]

/-- The entry is refused as malformed, whatever went wrong. -/
def IsMalformed (e : EntryError) : Prop := e.report.Wraps .malformedTransaction caught e.cause?

/-- What is wrong with the payload, if that is to blame. -/
def fault? : EntryError → Option PayloadFault
  | .payload _ fault => some fault
  | _ => none

theorem isMalformed {e : EntryError} (h : e.isRefusal = true) (hf : e.fault? = none) : e.IsMalformed := by
  cases e with
  | unfit | timestamp => exact Report.wraps_because rfl (by decide)
  | method txid method e =>
    have hidentifier : Kind.malformedIdentifier ∈ caught := by decide
    unfold IsMalformed
    rw [report, Report.showing_of_short h]
    exact Report.wraps_because rfl (IdentifierError.kind_of_isShown h ▸ hidentifier)
  | payload => cases hf
  | otherSubject txid own expected =>
    -- a refusal because both subjects can be shown
    have hshort : [own, expected].all Json.allShort = true := by simpa [isRefusal] using h
    unfold IsMalformed
    rw [report, Report.showing_of_short hshort]
    exact Report.wraps_none rfl rfl
  | operation | subjectless => cases h
  | _ => exact Report.wraps_none rfl rfl

theorem isMalformed_payload {txid : Text} {fault : PayloadFault} (h : fault ≠ .unreadable (.json .tooDeep))
    (hc : fault.report.kind ∈ caught) : (payload txid fault).IsMalformed := by
  have hreport : (payload txid fault).report =
      (refusal (say ("transaction " ++ txid ++ " has an undecodable payload: ") ++
        fault.report.message)).because fault.report := by
    simp only [report, if_neg h]
  unfold IsMalformed
  rw [hreport]
  exact Report.wraps_because rfl hc

theorem IsMalformed.isRefusal {e : EntryError} (h : e.IsMalformed) : e.isRefusal = true := by
  cases e with
  | payload txid fault =>
    refine decide_eq_true fun hdeep => ?_
    have hkind := h.kind_eq
    rw [hdeep] at hkind
    cases hkind
  | otherSubject txid own expected =>
    have hkind := h.kind_eq
    rw [report, Report.showing] at hkind
    split at hkind
    · rename_i hshort
      simpa [EntryError.isRefusal] using hshort
    · cases hkind
  | method txid method e =>
    have hkind := h.kind_eq
    rw [report, Report.showing] at hkind
    split at hkind
    · assumption
    · cases hkind
  | operation e => cases e <;> cases h.kind_eq
  | subjectless => cases h.kind_eq
  | _ => rfl

end EntryError

/-! ## Entries -/

namespace Payload

theorem textOf_error {bytes : List UInt8} {e : Error} (h : textOf bytes = .error e) :
    e.report.kind = .undecodable := by
  unfold textOf at h
  split at h
  · cases h
  · cases h
    rfl

theorem objectOf_error [Platform] {bytes : List UInt8} {e : Error} (h : objectOf bytes = .error e) :
    e = .json .tooDeep ∨ e.report.kind ∈ [.undecodable, .jsonText, .value] := by
  unfold objectOf at h
  split at h
  · rename_i e' he
    cases h
    rw [textOf_error he]
    exact .inr (.head _)
  split at h
  · rename_i e' _
    cases h
    cases e' with
    | tooDeep => exact .inl rfl
    | malformed | tooLong => exact .inr (by decide)
  · cases h
  · cases h
    exact .inr (.tail _ (.tail _ (.head _)))

end Payload

/-- What is wrong with the payload of an entry is caught, unless it lies too deep. -/
theorem PayloadFault.kind_of_checkPayload [Platform] {variety : Variety} {subject : Json} {r : Entry}
    {fault : PayloadFault} (h : r.checkPayload variety subject = .error fault) :
    fault = .unreadable (.json .tooDeep) ∨ fault.report.kind ∈ EntryError.caught := by
  have hvalue : Kind.value ∈ EntryError.caught := by decide
  have hundecodable : Kind.undecodable ∈ EntryError.caught := by decide
  have hdocument : [.undecodable, .jsonText, .value] ⊆ EntryError.caught := by decide
  unfold Entry.checkPayload at h
  split at h
  · rename_i e he
    cases h
    exact .inr ((Payload.kind_of_bytes he).symm ▸ hvalue)
  split at h
  · split at h
    · rename_i e he
      cases h
      rcases Payload.objectOf_error he with rfl | hkind
      · exact .inl rfl
      · exact .inr (hdocument hkind)
    · dsimp only at h
      split at h
      · cases h
        exact .inr hvalue
      · cases h
  · split at h
    · rename_i e he
      cases h
      exact .inr ((Payload.textOf_error he).symm ▸ hundecodable)
    · split at h
      · cases h
      · cases h
        exact .inr hvalue

theorem Operation.member_obj {ms : Json.Members} {key : String} {x : Json}
    (h : Json.Members.get? ms key = some x) : member (.obj ms) key = .ok x := by
  simp only [member, h]

theorem Schema.member_text {ms : Json.Members} {key : String} {path : List String} {rule : StringRule}
    (h : ∀ x, Json.Members.get? ms key = some x → (Schema.string rule).faults path x = []) :
    ∃ t : Option Text, Json.Members.get? ms key = t.map .str := by
  cases hget : Json.Members.get? ms key with
  | none => exact ⟨none, rfl⟩
  | some x =>
    obtain ⟨t, rfl, -⟩ := string_fits (h x hget)
    exact ⟨some t, rfl⟩

namespace Entry

/-- A header that meets its schema says by texts how the operation is to be read, what it does and, if it
does, which transaction it follows. -/
theorem header_fits {path : List String} {v : Json} (h : headerSchema.faults path v = []) :
    ∃ (specification kind : Text) (previous : Option Text),
      Operation.member v "specification" = .ok (.str specification) ∧
        Operation.member v "operation" = .ok (.str kind) ∧
        Operation.present ((v.get? "previousTxid").getD .null) = previous.map .str := by
  obtain ⟨ms, rfl, hparts, hfit⟩ := Schema.object_fits h
  obtain ⟨specification, hspecification⟩ := hparts "specification" (by decide)
  obtain ⟨kind, hkind⟩ := hparts "operation" (by decide)
  obtain ⟨_, rfl, -⟩ := Schema.string_fits (hfit _ (.head _) _ hspecification)
  obtain ⟨_, rfl, -⟩ := Schema.string_fits (hfit _ (.tail _ (.head _)) _ hkind)
  obtain ⟨previous, hprevious⟩ := Schema.member_text (hfit _ (.tail _ (.tail _ (.head _))))
  refine ⟨_, _, previous, Operation.member_obj hspecification, Operation.member_obj hkind, ?_⟩
  simp only [Json.get?, hprevious]
  cases previous <;> rfl

theorem proof_fits {path : List String} {v : Json} (h : proofSchema.faults path v = []) :
    ∃ method signature proofType : Text,
      Operation.member v "verificationMethod" = .ok (.str method) ∧
        Operation.member v "signature" = .ok (.str signature) ∧
        (v.get? "type").getD (.str Operation.defaultProofType) = .str proofType := by
  obtain ⟨ms, rfl, hparts, hfit⟩ := Schema.object_fits h
  obtain ⟨method, hmethod⟩ := hparts "verificationMethod" (by decide)
  obtain ⟨signature, hsignature⟩ := hparts "signature" (by decide)
  obtain ⟨_, rfl, -⟩ := Schema.string_fits (hfit _ (.tail _ (.head _)) _ hmethod)
  obtain ⟨_, rfl, -⟩ := Schema.string_fits (hfit _ (.tail _ (.tail _ (.head _))) _ hsignature)
  obtain ⟨proofType, htype⟩ := Schema.member_text (hfit _ (.head _))
  refine ⟨_, _, proofType.getD Operation.defaultProofType, Operation.member_obj hmethod,
    Operation.member_obj hsignature, ?_⟩
  simp only [Json.get?, htype]
  cases proofType <;> rfl

/-- All that is read of an entry is there: its hash and its time, which are texts, and its operation, which
is made of texts. -/
def HasFields (v : Json) : Prop :=
  ∃ (txid time : Text) (operation : Json) (op : Operation Text),
    v.get? "txid" = some (.str txid) ∧ v.get? "timestamp" = some (.str time) ∧
      v.get? "operation" = some operation ∧ Operation.ofJson operation = .ok op.toValues

/-- An entry that meets the schema has all that is read of it. -/
theorem hasFields {v : Json} (h : schema.firstFault v = none) : HasFields v := by
  obtain ⟨ms, rfl, hparts, hfit⟩ := Schema.object_fits (Schema.firstFault_eq_none_iff.mp h)
  obtain ⟨txid, htxid⟩ := hparts "txid" (by decide)
  obtain ⟨time, htime⟩ := hparts "timestamp" (by decide)
  obtain ⟨operation, hoperation⟩ := hparts "operation" (by decide)
  obtain ⟨txid, rfl, -⟩ := Schema.string_fits (hfit _ (.head _) _ htxid)
  obtain ⟨time, rfl, -⟩ := Schema.string_fits (hfit _ (.tail _ (.head _)) _ htime)
  obtain ⟨os, rfl, hparts, hfit⟩ := Schema.object_fits (hfit _ (.tail _ (.tail _ (.head _))) _ hoperation)
  obtain ⟨header, hheader⟩ := hparts "header" (by decide)
  obtain ⟨payload, hpayload⟩ := hparts "payload" (by decide)
  obtain ⟨proof, hproof⟩ := hparts "proof" (by decide)
  obtain ⟨specification, kind, previous, hspecification, hkind, hprevious⟩ :=
    header_fits (hfit _ (.head _) _ hheader)
  obtain ⟨payload, rfl, -⟩ := Schema.string_fits (hfit _ (.tail _ (.head _)) _ hpayload)
  obtain ⟨method, signature, proofType, hmethod, hsignature, htype⟩ :=
    proof_fits (hfit _ (.tail _ (.tail _ (.head _))) _ hproof)
  refine ⟨txid, time, .obj os, ⟨specification, kind, previous, payload, method, signature, proofType⟩,
    htxid, htime, hoperation, ?_⟩
  simp only [Operation.ofJson, Operation.member_obj hheader, Operation.member_obj hpayload,
    Operation.member_obj hproof, hspecification, hkind, hprevious, hmethod, hsignature, htype, bind,
    Except.bind]
  rfl

/-- What cannot be read as an entry is refused. -/
theorem ofJson_error {v subject : Json} {e : EntryError} (h : ofJson v subject = .error e) :
    e.IsMalformed := by
  unfold ofJson at h
  split at h
  · cases h
    exact EntryError.isMalformed rfl rfl
  · rename_i hfit
    split at h
    · rename_i e' he
      cases h
      unfold readTime at he
      split at he
      · cases he
        exact EntryError.isMalformed rfl rfl
      · split at he
        · cases he
        · cases he
          exact EntryError.isMalformed rfl rfl
    · -- what meets the schema can be taken apart, so that this case does not arise
      obtain ⟨_, _, _, op, -, -, hoperation, hop⟩ := hasFields hfit
      rw [hoperation, Option.getD_some, hop] at h
      cases h

theorem isShown_of_baseDid {subject : Text} {isUrl : Bool} {e : IdentifierError}
    (h : baseDid (.str subject) isUrl = .error e) : e.isShown = true := by
  unfold baseDid at h
  split at h
  · exact (DidUrl.showsTexts_of_parse (map_eq_error.mp h)).isShown
  · exact (Did.showsTexts_of_ofText h).isShown

theorem checkProof_error {subject : Text} {r : Entry} {e : EntryError}
    (h : r.checkProof (.str subject) = .error e) : e.IsMalformed := by
  unfold checkProof at h
  split at h
  · cases h
    exact EntryError.isMalformed rfl rfl
  split at h
  · cases h
    exact EntryError.isMalformed rfl rfl
  simp only [holdsMark?] at h
  split at h
  · rename_i fault hfault
    cases h
    have hshown : fault.isShown = true := by
      rcases bind_eq_error.mp hfault with hbase | ⟨base, -, hmethod⟩
      · exact isShown_of_baseDid hbase
      · exact (DidUrl.showsTexts_of_parse hmethod).isShown
    exact EntryError.isMalformed hshown rfl
  · cases h

/-- What does not suit its subject, which is a text, is refused, unless its payload lies too deep. -/
theorem check_error [Platform] {variety : Variety} {subject : Text} {r : Entry} {e : EntryError}
    (hown : r.subject.allShort = true) (h : r.check variety (.str subject) = .error e) :
    e.IsMalformed ∨ e = .payload r.txid (.unreadable (.json .tooDeep)) := by
  unfold check at h
  split at h
  · cases h
    exact .inl (EntryError.isMalformed rfl rfl)
  split at h
  · cases h
    have hrefusal : (EntryError.otherSubject r.txid r.subject (.str subject)).isRefusal = true := by
      rw [EntryError.isRefusal, hown]
      rfl
    exact .inl (EntryError.isMalformed hrefusal rfl)
  split at h
  · cases h
    exact .inl (EntryError.isMalformed rfl rfl)
  split at h
  · cases h
    exact .inl (EntryError.isMalformed rfl rfl)
  split at h
  · cases h
    exact .inl (EntryError.isMalformed rfl rfl)
  split at h
  · rename_i fault hfault
    cases h
    by_cases hdeep : fault = .unreadable (.json .tooDeep)
    · rw [hdeep]
      exact .inr rfl
    · exact .inl (EntryError.isMalformed_payload hdeep
        ((PayloadFault.kind_of_checkPayload hfault).resolve_left hdeep))
  · exact .inl (checkProof_error h)

end Entry

/-! ## Biographies -/

theorem StatusError.kind (e : StatusError) : e.report.kind = .value := by
  cases e with
  | notWhole v => exact Report.kind_showing rfl [v]
  | reserved | unknown => rfl

namespace BiographyError

/-- The failure that the error was raised from. -/
def cause? : BiographyError → Option Report
  | .badSubject _ e => some e.report
  | .badStatus _ _ e => some e.report
  | .unreadable _ _ e | .unsuitable _ _ _ e => some e.report
  | .badDocument _ _ cause => some cause
  | _ => none

/-- The error of the entry that is to blame. -/
def entry? : BiographyError → Option EntryError
  | .unreadable _ _ e | .unsuitable _ _ _ e => some e
  | _ => none

/-- What may go wrong where a biography is read and checked: the identifier of its subject, its status and
its entries. -/
def caught : List Kind := [.malformedIdentifier, .value, .malformedTransaction]

variable [Platform]

/-- The value is refused as malformed, and so is the entry that is to blame, if one is. -/
structure IsMalformed (e : BiographyError) : Prop where
  wraps : e.report.Wraps .malformedBiography caught e.cause?
  entry : ∀ x ∈ e.entry?, x.IsMalformed

/-- The entry with this number has a payload that lies too deep. -/
def IsTooDeep (e : BiographyError) : Prop :=
  ∃ subject index txid, e = .unsuitable subject index txid (.payload txid (.unreadable (.json .tooDeep)))

/-- The value that the refusal shows, its subject or its status, cannot be shown, as a whole number in it is
too long or it lies too deep. -/
inductive IsUntold : BiographyError → Prop where
  | subject {v : Json} (unshown : ¬v.IsShowable Platform.showRoom) : IsUntold (.subjectNotText v)
  | status {v : Json} (subject : Json) (e : StatusError) (unshown : ¬v.IsShowable Platform.showRoom) :
    IsUntold (.badStatus subject v e)

theorem IsMalformed.kind {e : BiographyError} (h : e.IsMalformed) : e.report.kind = .malformedBiography :=
  h.wraps.kind_eq

theorem IsTooDeep.kind {e : BiographyError} (h : e.IsTooDeep) : e.report.kind = .tooDeep := by
  obtain ⟨subject, index, txid, rfl⟩ := h
  rfl

theorem IsUntold.kind {e : BiographyError} (h : e.IsUntold) :
    e.report.kind = .value ∨ e.report.kind = .tooDeep := by
  cases h with
  | subject unshown | status _ _ unshown =>
    exact Report.kind_showingWithin (mt List.forall_mem_singleton.mp unshown) _

theorem isMalformed_plain {e : BiographyError} (hk : e.report.kind = .malformedBiography)
    (hr : e.report.cause = none) (hc : e.cause? = none) (he : e.entry? = none) : e.IsMalformed where
  wraps := hc ▸ Report.wraps_none hk hr
  entry x hx := absurd (he ▸ hx) (Option.not_mem_none x)

theorem isMalformed_badSubject {subject : Text} {e : IdentifierError} (h : e.isShown = true) :
    (badSubject (.str subject) e).IsMalformed where
  wraps := by
    have hcaught : Kind.malformedIdentifier ∈ caught := by decide
    exact Report.wraps_because rfl (IdentifierError.kind_of_isShown h ▸ hcaught)
  entry x hx := absurd hx (Option.not_mem_none x)

theorem isMalformed_subjectNotText {v : Json} (h : v.IsShowable Platform.showRoom) :
    (subjectNotText v).IsMalformed := by
  have hreport := Report.showingWithin_of_showable (List.forall_mem_singleton.mpr h)
  exact isMalformed_plain (by rw [report, hreport]; rfl) (by rw [report, hreport]; rfl) rfl rfl

theorem isMalformed_badStatus {subject value : Json} {e : StatusError}
    (h : value.IsShowable Platform.showRoom) : (badStatus subject value e).IsMalformed where
  wraps := by
    have hcaught : Kind.value ∈ caught := by decide
    rw [report, Report.showingWithin_of_showable (List.forall_mem_singleton.mpr h)]
    exact Report.wraps_because rfl (e.kind.symm ▸ hcaught)
  entry x hx := absurd hx (Option.not_mem_none x)

omit [Platform] in
theorem caught_of_isMalformed {e : EntryError} (h : e.IsMalformed) : e.report.kind ∈ caught := by
  rw [h.kind_eq]
  decide

theorem isMalformed_unreadable {subject : Json} {index : Nat} {e : EntryError} (h : e.IsMalformed) :
    (unreadable subject index e).IsMalformed where
  wraps := Report.wraps_because rfl (caught_of_isMalformed h)
  entry _ hx := Option.mem_some_iff.mp hx ▸ h

theorem isMalformed_unsuitable {subject : Json} {index : Nat} {txid : Text} {e : EntryError}
    (h : e.IsMalformed) : (unsuitable subject index txid e).IsMalformed where
  wraps := by
    simp only [report, if_pos h.isRefusal]
    exact Report.wraps_because rfl (caught_of_isMalformed h)
  entry _ hx := Option.mem_some_iff.mp hx ▸ h

end BiographyError

namespace Biography

open BiographyError

variable {variety : Variety} {e : BiographyError}

theorem readEntries_error [Platform] {subject : Json} {index : Nat} {vs : List Json}
    (h : readEntries subject index vs = .error e) : e.IsMalformed := by
  induction vs generalizing index with
  | nil => cases h
  | cons v vs ih =>
    unfold readEntries at h
    split at h
    · rename_i e' he
      cases h
      exact isMalformed_unreadable (Entry.ofJson_error he)
    · exact ih (map_eq_error.mp h)

theorem checkEntries_error [Platform] {subject : Text} {index : Nat} {entries : List Entry}
    (hown : ∀ r ∈ entries, r.subject.allShort = true)
    (h : checkEntries variety (.str subject) index entries = .error e) : e.IsMalformed ∨ e.IsTooDeep := by
  induction entries generalizing index with
  | nil => cases h
  | cons r rs ih =>
    unfold checkEntries at h
    split at h
    · rename_i e' he
      cases h
      rcases Entry.check_error (List.forall_mem_cons.mp hown).1 he with hmalformed | rfl
      · exact .inl (isMalformed_unsuitable hmalformed)
      · exact .inr ⟨_, _, _, rfl⟩
    · exact ih (List.forall_mem_cons.mp hown).2 h

theorem checkOrder_error [Platform] {subject : Json} {index : Nat} {entries : List Entry}
    (h : checkOrder subject index entries = .error e) : e.IsMalformed := by
  fun_induction checkOrder subject index entries with
  | case1 index before r rs e' he =>
    cases h
    unfold checkStep at he
    split at he
    · cases he
      exact isMalformed_plain rfl rfl rfl rfl
    · split at he
      · cases he
      · split at he
        · cases he
          exact isMalformed_plain rfl rfl rfl rfl
        · cases he
  | case2 index before r rs u hu ih => exact ih h
  | case3 entries index hn => cases h

theorem isShown_of_identifierOf {t : Text} {fault : IdentifierError}
    (h : identifierOf variety (.str t) = .error fault) : fault.isShown = true := by
  cases variety with
  | did => exact (Did.showsTexts_of_ofText (map_eq_error.mp h)).isShown
  | credential => exact (DidUrl.showsTexts_of_parse (map_eq_error.mp h)).isShown

/-- A biography of a subject that is a text is refused, unless a payload lies too deep. -/
theorem check_error [Platform] {b : Biography} {subject : Text} (hs : b.subject = .str subject)
    (hown : ∀ r ∈ b.entries, r.subject.allShort = true) (h : b.check = .error e) :
    e.IsMalformed ∨ e.IsTooDeep := by
  unfold check at h
  split at h
  · cases h
    exact .inl (isMalformed_plain rfl rfl rfl rfl)
  split at h
  · rename_i fault hfault
    cases h
    rw [hs] at hfault ⊢
    exact .inl (isMalformed_badSubject (isShown_of_identifierOf hfault))
  split at h
  · split at h
    · cases h
    · cases h
      exact .inl (isMalformed_plain rfl rfl rfl rfl)
  split at h
  · cases h
    exact .inl (isMalformed_plain rfl rfl rfl rfl)
  split at h
  · rename_i e' he
    cases h
    rw [hs] at he
    exact checkEntries_error hown he
  · exact .inl (checkOrder_error h)

theorem subjectOf_error [Platform] {v : Json} (h : subjectOf variety v = .error e) :
    e.IsMalformed ∨ (e.IsUntold ∧ ¬v.IsShowable (Platform.showRoom + 1)) := by
  unfold subjectOf at h
  dsimp only at h
  split at h
  · cases h
    exact .inl (isMalformed_plain rfl rfl rfl rfl)
  · split at h
    · cases h
    · cases h
      by_cases hpart : ((v.get? variety.subjectKey).getD .null).IsShowable Platform.showRoom
      · exact .inl (isMalformed_subjectNotText hpart)
      · exact .inr ⟨.subject hpart, fun hv => hpart (hv.member _)⟩

theorem statusOf_error [Platform] {subject v : Json} (h : statusOf subject v = .error e) :
    e.IsMalformed ∨ (e.IsUntold ∧ ¬v.IsShowable (Platform.showRoom + 1)) := by
  unfold statusOf at h
  split at h
  · cases h
    exact .inl (isMalformed_plain rfl rfl rfl rfl)
  · rename_i code hcode
    split at h
    · cases h
    · cases h
      by_cases hpart : code.IsShowable Platform.showRoom
      · exact .inl (isMalformed_badStatus hpart)
      · refine .inr ⟨.status _ _ hpart, fun hv => hpart ?_⟩
        have hmember := hv.member "status"
        rwa [hcode, Option.getD_some] at hmember

theorem entriesOf_error [Platform] {subject v : Json} (h : entriesOf subject v = .error e) :
    e.IsMalformed := by
  unfold entriesOf at h
  split at h
  · cases h
  · cases h
  · cases h
    exact isMalformed_plain rfl rfl rfl rfl

/-- **A value that gives no biography is refused**, unless a payload with a document lies too deep or
something in the value cannot be shown. -/
theorem ofJson_error [Platform] {v : Json} (h : ofJson variety v = .error e) :
    e.IsMalformed ∨ e.IsTooDeep ∨ (e.IsUntold ∧ ¬v.IsShowable (Platform.showRoom + 1)) := by
  unfold ofJson at h
  split at h
  · rcases bind_eq_error.mp h with hsubject | ⟨subject, hsubject, h⟩
    · exact (subjectOf_error hsubject).imp_right .inr
    rcases bind_eq_error.mp h with hstatus | ⟨status, -, h⟩
    · exact (statusOf_error hstatus).imp_right .inr
    rcases bind_eq_error.mp h with hitems | ⟨items, -, h⟩
    · exact .inl (entriesOf_error hitems)
    rcases bind_eq_error.mp h with hentries | ⟨entries, hentries, h⟩
    · exact .inl (readEntries_error hentries)
    -- only in a text can the mark of a DID URL be looked for
    obtain ⟨-, hstring, -⟩ := subjectOf_eq_ok_iff.mp hsubject
    cases subject with
    | str t =>
      have hown : ∀ r ∈ entries, r.subject.allShort = true := by
        refine forall_of_readEntries (fun v r hr => ?_) hentries
        rw [(Entry.ofJson_eq_ok hr).1]
        rfl
      exact (check_error rfl hown (map_eq_error.mp h)).imp_right .inl
    | _ => cases hstring
  · cases h
    exact .inl (isMalformed_plain rfl rfl rfl rfl)

theorem ofJson_eq_ok_iff_wellFormed [Platform] {v : Json} {b : Biography} :
    ofJson variety v = .ok b ↔ b.variety = variety ∧ PartsOf v b ∧ b.WellFormed := by
  rw [ofJson_eq_ok_iff, check_eq_ok_iff]

section

attribute [local instance] Platform.usual

end

end Biography

end DidRegistry
