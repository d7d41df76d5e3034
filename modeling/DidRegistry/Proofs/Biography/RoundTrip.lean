import DidRegistry.Platform.Usual
import DidRegistry.Proofs.Biography.Extension
import DidRegistry.Proofs.Operation.Published
import DidRegistry.Proofs.Time.WireText

/-!
# Biographies written and read back

A biography is written as the value of the wire format and read from it again.  All of it comes back but
for the times: they are written in universal time and in whole seconds.

## Results

* `Entry.ofJson_toJson` — a transaction is read from its value, with its time rounded down to the second.
* `Biography.readEntries_mapM` — so are the transactions of a history, by induction on them.
* `Biography.WellFormed.onWire` — rounding keeps the order of instants, and so what is well formed stays so.
* `Biography.ofJson_toJson` — what passes its check is written, and read so.
* `Biography.toJson_readBack` — **a biography is read back from its value with its times rounded down to the
  second**, and is the same one exactly when there was nothing to round.
-/

set_option autoImplicit false

namespace DidRegistry

namespace Entry

/-- A transaction as it is on the wire. -/
def onWire (r : Entry) : Entry := { r with timestamp := r.timestamp.onWire }

/-- Two transactions are the same but for the zones that their times are written in. -/
structure Same (r s : Entry) : Prop where
  subject : r.subject = s.subject
  txid : r.txid = s.txid
  operation : r.operation = s.operation
  instant : r.timestamp.instant = s.timestamp.instant

/-- The time of a transaction is a whole second. -/
def IsWhole (r : Entry) : Prop := r.timestamp.instant % 1000000 = 0

/-- The year of a transaction, in universal time, has four digits. -/
def HasWireYear (r : Entry) : Prop :=
  1000 ≤ r.timestamp.universalYear ∧ r.timestamp.universalYear ≤ 9999

theorem onWire_same_iff {r : Entry} : r.onWire.Same r ↔ r.IsWhole := by
  have hinstant : r.onWire.timestamp.instant = r.timestamp.instant / 1000000 * 1000000 :=
    r.timestamp.instant_onWire
  unfold IsWhole
  constructor
  · intro h
    have hsame := h.instant
    omega
  · intro h
    exact ⟨rfl, rfl, rfl, by omega⟩

/-! ## One transaction -/

/-- The value of a transaction whose time has this text. -/
def value (r : Entry) (time : Text) : Json :=
  .obj [("txid", .str r.txid), ("timestamp", .str time), ("operation", r.operation.toValues.toJson)]

/-- Nothing is at fault in the value of a transaction but an empty hash or time. -/
theorem faults_value (r : Entry) (time : Text) :
    schema.faults [] (r.value time) =
      (Schema.string .nonEmpty).faults ["txid"] (.str r.txid) ++
        ((Schema.string .nonEmpty).faults ["timestamp"] (.str time) ++ []) := by
  obtain ⟨_, _, _, _, _, _ | previous, _, _, _, _⟩ := r <;> unfold value <;> rfl

theorem firstFault_value {r : Entry} {time : Text} (hhash : r.txid.chars ≠ []) (htime : time.chars ≠ []) :
    schema.firstFault (r.value time) = none := by
  unfold Schema.firstFault
  rw [faults_value]
  simp [Schema.faults, Schema.StringRule.faults, hhash, htime]

theorem ne_nil_of_isTxid {s : List Char} (h : isTxid s = true) : s ≠ [] := by
  rintro rfl
  cases h

theorem map_text_toValues (op : Operation Text) : op.toValues.map Json.text = op := by
  obtain ⟨_, _, _ | previous, _, _, _, _⟩ := op <;> rfl

theorem toJson_eq {r : Entry} {s : String} (h : r.timestamp.wireText = .ok s) :
    r.toJson = .ok (r.value s) := by
  unfold toJson
  rw [h]
  rfl

theorem ofJson_eq {v subject : Json} {t : Timestamp} {op : Operation Json}
    (hfit : schema.firstFault v = none) (htime : readTime ((v.get? "timestamp").getD .null).text = .ok t)
    (hop : Operation.ofJson ((v.get? "operation").getD .null) = .ok op) :
    ofJson v subject = .ok ⟨subject, ((v.get? "txid").getD .null).text, t, op.map Json.text⟩ := by
  unfold ofJson
  simp only [hfit, htime, hop]

/-- **A transaction is read from its value, with its time rounded down to the second.** -/
theorem ofJson_toJson {r : Entry} (hhash : isTxid r.txid.chars = true) (hzone : r.timestamp.hasZone = true)
    (hyear : r.HasWireYear) : ∃ v, r.toJson = .ok v ∧ ofJson v r.subject = .ok r.onWire := by
  obtain ⟨s, hs, hread⟩ := Timestamp.ofText?_wireText hzone hyear
  have hfit : schema.firstFault (r.value s) = none :=
    firstFault_value (ne_nil_of_isTxid hhash) (Timestamp.chars_ne_nil_of_ofText? hread)
  have htime : readTime s = .ok r.timestamp.onWire := by
    unfold readTime
    rw [hread]
    rfl
  have hop : Operation.ofJson r.operation.toValues.toJson = .ok r.operation.toValues := by
    refine Operation.ofJson_toJson ?_
    obtain ⟨_, _, _, _, _, _ | previous, _, _, _, _⟩ := r <;> simp [Operation.toValues, Operation.map]
  refine ⟨_, toJson_eq hs, (ofJson_eq hfit htime hop).trans ?_⟩
  rw [map_text_toValues]
  rfl

end Entry

namespace Biography

/-! ## A history -/

/-- **A history is read from the values of its transactions when each of them is read from its own.** -/
theorem readEntries_mapM {subject : Json} {es : List Entry}
    (h : ∀ r ∈ es, ∃ v, r.toJson = .ok v ∧ Entry.ofJson v subject = .ok r.onWire) :
    ∃ vs, es.mapM Entry.toJson = .ok vs ∧
      ∀ index, readEntries subject index vs = .ok (es.map Entry.onWire) := by
  induction es with
  | nil => exact ⟨[], rfl, fun _ => rfl⟩
  | cons r es ih =>
    obtain ⟨v, hv, hr⟩ := h r List.mem_cons_self
    obtain ⟨vs, hvs, hes⟩ := ih fun s hs => h s (List.mem_cons_of_mem r hs)
    refine ⟨v :: vs, ?_, fun index => ?_⟩
    · rw [List.mapM_cons, hv, hvs]
      rfl
    · simp only [readEntries, hr, hes, Except.map, List.map_cons]

/-! ## The biography as a whole -/

/-- A biography as it is on the wire. -/
def onWire (b : Biography) : Biography := { b with entries := b.entries.map Entry.onWire }

/-- Two biographies are the same but for the zones that times are written in. -/
structure Same (b c : Biography) : Prop where
  variety : b.variety = c.variety
  subject : b.subject = c.subject
  status : b.status = c.status
  entries : List.Forall₂ Entry.Same b.entries c.entries

theorem onWire_same_iff {b : Biography} : b.onWire.Same b ↔ ∀ r ∈ b.entries, r.IsWhole := by
  have hentries : List.Forall₂ Entry.Same (b.entries.map Entry.onWire) b.entries ↔
      ∀ r ∈ b.entries, r.IsWhole := by
    rw [List.forall₂_map_left_iff, List.forall₂_same]
    exact forall₂_congr fun r _ => Entry.onWire_same_iff
  exact ⟨fun h => hentries.mp h.entries, fun h => ⟨rfl, rfl, rfl, hentries.mpr h⟩⟩

/-- Rounding keeps the order of instants, and so what is well formed and has its instants in order stays
so. -/
theorem WellFormed.onWire [Platform] {b : Biography} (h : b.WellFormed)
    (hinstants : b.entries.IsChain fun r s => r.timestamp.instant ≤ s.timestamp.instant) :
    b.onWire.WellFormed := by
  obtain ⟨⟨subject, owner, hs, ho, hall⟩, hfound, -, hchain⟩ := h
  refine ⟨⟨subject, owner, hs, ho, fun r hr => ?_⟩, ?_, ?_, ?_⟩
  · obtain ⟨r, hmem, rfl⟩ := List.mem_map.mp hr
    have hr := hall r hmem
    exact ⟨hr.hash, hr.about, rfl, hr.specification, hr.known, hr.payload, hr.signed, hr.method⟩
  · exact hfound.trans List.map_eq_nil_iff.symm
  · refine (List.isChain_map _).mpr (hinstants.imp fun r s hle => ?_)
    refine (isBefore_eq_false_iff rfl).mpr ?_
    simp only [Entry.onWire, Timestamp.instant_onWire]
    omega
  · exact (List.isChain_map _).mpr hchain

/-- The value of a biography with these values of its transactions. -/
def value (b : Biography) (vs : List Json) : Json :=
  .obj ((Text.ofString b.variety.subjectKey, b.subject) :: ("status", .int b.status.code) ::
    if vs.isEmpty then [] else [("transaction", .arr vs)])

theorem toJson_eq {b : Biography} {vs : List Json} (h : b.entries.mapM Entry.toJson = .ok vs) :
    b.toJson = .ok (b.value vs) := by
  unfold toJson
  rw [h]
  rfl

theorem subjectOf_value {b : Biography} (vs : List Json) {subject : Text} (h : b.subject = .str subject)
    (hp : (Json.str subject).isPresent = true) : subjectOf b.variety (b.value vs) = .ok b.subject := by
  have hget : (b.value vs).get? b.variety.subjectKey = some b.subject := by
    unfold value
    cases b.variety <;> rfl
  rw [h] at hget ⊢
  exact subjectOf_eq_ok_iff.mpr ⟨hget, rfl, hp⟩

theorem statusOf_value (b : Biography) (vs : List Json) :
    statusOf b.subject (b.value vs) = .ok b.status := by
  have hget : (b.value vs).get? "status" = some (.int b.status.code) := by
    unfold value
    cases b.variety <;> rfl
  exact statusOf_of_code hget

theorem entriesOf_value (b : Biography) (vs : List Json) : entriesOf b.subject (b.value vs) = .ok vs := by
  unfold value
  cases b.variety <;> cases vs <;> rfl

/-- **A biography that was read is read from its value too, with its times rounded down to the second.** -/
theorem ofJson_toJson [Platform] {b : Biography} {variety : Variety} {v : Json}
    (h : ofJson variety v = .ok b) (hy : ∀ r ∈ b.entries, r.HasWireYear) :
    ∃ w, b.toJson = .ok w ∧ ofJson b.variety w = .ok b.onWire := by
  have hwell := check_eq_ok_iff.mp (ofJson_eq_ok h).2
  have hinstants := pairwise_instants_iff.mp (hwell.instants (region_of_ofJson h))
  obtain ⟨subject, owner, hs, ho, hall⟩ := hwell.entries
  have hentry : ∀ r ∈ b.entries, ∃ v, r.toJson = .ok v ∧ Entry.ofJson v b.subject = .ok r.onWire := by
    intro r hr
    have hsuits := hall r hr
    rw [hs, ← hsuits.about]
    exact Entry.ofJson_toJson hsuits.hash hsuits.zoned (hy r hr)
  obtain ⟨vs, hvs, hread⟩ := readEntries_mapM hentry
  have hparts : PartsOf (b.value vs) b.onWire :=
    ⟨⟨_, rfl⟩, subjectOf_value vs hs (isPresent_of_ownerOf ho), statusOf_value b vs,
      vs, entriesOf_value b vs, hread 0⟩
  exact ⟨b.value vs, toJson_eq hvs,
    ofJson_eq_ok_iff.mpr ⟨rfl, hparts, check_eq_ok_iff.mpr (hwell.onWire hinstants)⟩⟩

/-- **A biography is read back from its value with its times rounded down to the second.**  It is the same one
exactly when no time has a fraction of a second. -/
theorem toJson_readBack [Platform] {b : Biography} {variety : Variety} {v : Json}
    (h : ofJson variety v = .ok b)
    (hy : ∀ r ∈ b.entries, r.HasWireYear) :
    (∃ w, b.toJson = .ok w ∧ ofJson variety w = .ok b.onWire) ∧
      (∀ r ∈ b.entries, r.onWire.timestamp.instant = r.timestamp.instant / 1000000 * 1000000) ∧
      (b.onWire.Same b ↔ ∀ r ∈ b.entries, r.IsWhole) := by
  obtain ⟨rfl, -⟩ := ofJson_eq_ok h
  exact ⟨ofJson_toJson h hy, fun r _ => r.timestamp.instant_onWire, onWire_same_iff⟩

/-- The value of a biography of a DID that is created at a time. -/
def createdValue (time : String) : Json :=
  .obj [("did", .str "did:example:123"), ("status", .int 0),
    ("transaction", .arr [Entry.created.value time])]

/-- The biography of a DID that is created at a time. -/
def createdAt (t : Timestamp) : Biography :=
  ⟨.did, .str "did:example:123", .valid, [{ Entry.created with timestamp := t }]⟩

section

attribute [local instance] Platform.usual

theorem toJson_readBack_zoned :
    ∃ b w, ofJson .did (createdValue "2024-03-01T12:30:00.25+02:30") = .ok b ∧
      b.toJson = .ok w ∧ ofJson .did w = .ok (createdAt ⟨⟨2024, 3, 1⟩, 10, 0, 0, 0, some 0, none⟩) := by
  let b := createdAt ⟨⟨2024, 3, 1⟩, 12, 30, 0, 250000, some 9000000000, none⟩
  have hread : ofJson .did (createdValue "2024-03-01T12:30:00.25+02:30") = .ok b :=
    toOption_eq_some.mp (by decide +kernel)
  have hyear : ∀ r ∈ b.entries, r.HasWireYear := by
    intro r hr
    obtain rfl := List.mem_singleton.mp hr
    exact ⟨by decide +kernel, by decide +kernel⟩
  obtain ⟨⟨w, hw, hback⟩, -, -⟩ := toJson_readBack hread hyear
  have hwire : b.onWire = createdAt ⟨⟨2024, 3, 1⟩, 10, 0, 0, 0, some 0, none⟩ := by decide +kernel
  exact ⟨b, w, hread, hw, hwire ▸ hback⟩

/-- A fraction of a second is lost on the wire.  A year below 1000 is written in a way that is not read, and
a time whose year in universal time is not one of 1 to 9999 is not written. -/
theorem toJson_not_readBack :
    (∃ b w c, ofJson .did (createdValue "2024-03-01T10:00:00.500000Z") = .ok b ∧
        b.toJson = .ok w ∧ ofJson .did w = .ok c ∧ ¬c.Same b) ∧
      (∃ b w, ofJson .did (createdValue "0999-12-31T23:59:59Z") = .ok b ∧
        b.toJson = .ok w ∧ ∀ c, ofJson .did w ≠ .ok c) ∧
      ∃ b, ofJson .did (createdValue "0001-01-01T00:00:00+01:00") = .ok b ∧
        ∀ w, b.toJson ≠ .ok w := by
  refine ⟨?_, ?_, ?_⟩
  · let b := createdAt ⟨⟨2024, 3, 1⟩, 10, 0, 0, 500000, some 0, none⟩
    let c := createdAt ⟨⟨2024, 3, 1⟩, 10, 0, 0, 0, some 0, none⟩
    have h : (b.toJson.toOption.bind fun w => (ofJson .did w).toOption) = some c := by decide +kernel
    obtain ⟨w, hw, hc⟩ := Option.bind_eq_some_iff.mp h
    refine ⟨b, w, c, toOption_eq_some.mp (by decide +kernel), toOption_eq_some.mp hw,
      toOption_eq_some.mp hc, fun hsame => ?_⟩
    obtain ⟨hentry, -⟩ := List.forall₂_cons.mp hsame.entries
    exact absurd hentry.instant (by decide +kernel)
  · let b := createdAt ⟨⟨999, 12, 31⟩, 23, 59, 59, 0, some 0, none⟩
    have h : (b.toJson.toOption.map fun w => (ofJson .did w).toOption) = some none := by decide +kernel
    obtain ⟨w, hw, hnone⟩ := Option.map_eq_some_iff.mp h
    refine ⟨b, w, toOption_eq_some.mp (by decide +kernel), toOption_eq_some.mp hw, fun c hc => ?_⟩
    rw [hc] at hnone
    cases hnone
  · let b := createdAt ⟨⟨1, 1, 1⟩, 0, 0, 0, 0, some 3600000000, none⟩
    have h : b.toJson.toOption = none := by decide +kernel
    refine ⟨b, toOption_eq_some.mp (by decide +kernel), fun w hw => ?_⟩
    rw [hw] at h
    cases h

end

end Biography

end DidRegistry
