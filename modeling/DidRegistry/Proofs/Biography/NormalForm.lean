import DidRegistry.Platform.Usual
import DidRegistry.Proofs.Biography.RoundTrip

/-!
# The normal form of a biography

A biography that was read from the wire format may be written in other words than it came in: its times are
put into universal time and lose the fraction of their second.  That is all that happens to it, and it
happens once: what was written and read is written again as it was.

## Results

* `Timestamp.ofInstant_onWire` — a timestamp that is on the wire is the one of its instant.
* `Timestamp.wireText_onWire`, `Entry.toJson_onWire` — it has the text that it came from, and a transaction
  the value.
* `Biography.toJson_onWire` — so has a history, by induction on its transactions.
* `Biography.toJson_normal` — **a biography is in its normal form after it was written and read once**.
-/

set_option autoImplicit false

namespace DidRegistry

namespace Timestamp

/-- An instant has the date of its whole second, and the time but for the fraction. -/
theorem ofInstant_wholeSecond (n : Int) :
    ofInstant (n / 1000000 * 1000000) = { ofInstant n with microsecond := 0 } := by
  have hday : n / 1000000 * 1000000 / dayLength = n / dayLength := by
    unfold dayLength
    omega
  have hsecond : (n / 1000000 * 1000000 % dayLength).toNat / 1000000 =
      (n % dayLength).toNat / 1000000 := by
    unfold dayLength
    omega
  have hfraction : (n / 1000000 * 1000000 % dayLength).toNat % 1000000 = 0 := by
    unfold dayLength
    omega
  unfold ofInstant
  simp only [hday, hsecond, hfraction]

/-- A timestamp that is on the wire is the one of its instant. -/
theorem ofInstant_onWire (t : Timestamp) : ofInstant t.onWire.instant = t.onWire := by
  rw [instant_onWire, ofInstant_wholeSecond]
  rfl

/-- The text of a timestamp on the wire is the one that it came from. -/
theorem wireText_onWire {t : Timestamp} (h : t.hasZone = true) : t.onWire.wireText = t.wireText := by
  have hzoned : ∀ u : Timestamp, u.hasZone = true → ¬((!u.hasZone) = true ∧ u.date = ⟨1, 1, 1⟩) := by
    intro u hu hearly
    rw [hu] at hearly
    exact absurd hearly.1 (by decide)
  unfold wireText
  rw [if_neg (hzoned t.onWire rfl), if_neg (hzoned t h)]
  unfold toUniversal?
  rw [ofInstant_onWire]
  unfold onWire
  by_cases hv : (ofInstant t.instant).date.isValid = true
  · simp only [hv, if_true]
  · simp only [hv, Bool.false_eq_true, if_false]

end Timestamp

namespace Entry

/-- A transaction as it is on the wire has the value that it came from. -/
theorem toJson_onWire {r : Entry} (h : r.timestamp.hasZone = true) : r.onWire.toJson = r.toJson := by
  have htext : r.onWire.timestamp.wireText = r.timestamp.wireText := Timestamp.wireText_onWire h
  unfold toJson
  rw [htext]
  rfl

/-- A transaction is another one with its time rounded down to the second. -/
structure Rounds (s r : Entry) : Prop where
  subject : s.subject = r.subject
  txid : s.txid = r.txid
  operation : s.operation = r.operation
  instant : s.timestamp.instant = r.timestamp.instant / 1000000 * 1000000

theorem rounds_onWire (r : Entry) : r.onWire.Rounds r := ⟨rfl, rfl, rfl, r.timestamp.instant_onWire⟩

end Entry

namespace Biography

theorem mapM_toJson_onWire {es : List Entry} (h : ∀ r ∈ es, r.timestamp.hasZone = true) :
    (es.map Entry.onWire).mapM Entry.toJson = es.mapM Entry.toJson := by
  induction es with
  | nil => rfl
  | cons r es ih =>
    rw [List.map_cons, List.mapM_cons, List.mapM_cons, Entry.toJson_onWire (h r List.mem_cons_self),
      ih fun s hs => h s (List.mem_cons_of_mem r hs)]

/-- A biography as it is on the wire has the value that it came from. -/
theorem toJson_onWire [Platform] {b : Biography} (h : b.check = .ok ()) : b.onWire.toJson = b.toJson := by
  obtain ⟨subject, owner, -, -, hall⟩ := (check_eq_ok_iff.mp h).entries
  unfold toJson onWire
  simp only [mapM_toJson_onWire fun r hr => (hall r hr).zoned]

/-- A biography is another one with its times rounded down to the second. -/
structure Rounds (c b : Biography) : Prop where
  variety : c.variety = b.variety
  subject : c.subject = b.subject
  status : c.status = b.status
  entries : List.Forall₂ Entry.Rounds c.entries b.entries

theorem rounds_onWire (b : Biography) : b.onWire.Rounds b := by
  have hentries : List.Forall₂ Entry.Rounds (b.entries.map Entry.onWire) b.entries := by
    rw [List.forall₂_map_left_iff, List.forall₂_same]
    exact fun r _ => r.rounds_onWire
  exact ⟨rfl, rfl, rfl, hentries⟩

/-- **A biography is in its normal form after it was written and read once.**  Its value is read, as a
biography that is well formed, in the order of its instants too, and is the same but for times that are
rounded down to the second; and that biography is written as the very same value. -/
theorem toJson_normal [Platform] {b : Biography} {variety : Variety} {v : Json} (h : ofJson variety v = .ok b)
    (hy : ∀ r ∈ b.entries, r.HasWireYear) :
    ∃ w c, b.toJson = .ok w ∧ ofJson variety w = .ok c ∧ c.WellFormed ∧
      c.entries.Pairwise (fun r s => r.timestamp.instant ≤ s.timestamp.instant) ∧ c.Rounds b ∧
      c.toJson = .ok w := by
  obtain ⟨rfl, hc⟩ := ofJson_eq_ok h
  obtain ⟨w, hw, hread⟩ := ofJson_toJson h hy
  obtain ⟨-, hback⟩ := ofJson_eq_ok hread
  have hwell := check_eq_ok_iff.mp hback
  exact ⟨w, b.onWire, hw, hread, hwell, hwell.instants (region_of_ofJson hread), b.rounds_onWire,
    (toJson_onWire hc).trans hw⟩

/-- The biography of a DID that is created and updated within one second, each time in a zone of its own. -/
def hasty : Biography :=
  ⟨.did, .str "did:example:123", .valid,
    [{ Entry.created with timestamp := ⟨⟨2024, 3, 1⟩, 12, 30, 0, 250000, some 9000000000, none⟩ },
      { Entry.renewed with timestamp := ⟨⟨2024, 3, 1⟩, 10, 0, 0, 750000, some 0, none⟩ }]⟩

/-- The value that it is read from. -/
def hastyValue : Json :=
  .obj [("did", .str "did:example:123"), ("status", .int 0),
    ("transaction", .arr [Entry.created.value "2024-03-01T12:30:00.25+02:30",
      Entry.renewed.value "2024-03-01T10:00:00.75Z"])]

section

attribute [local instance] Platform.usual

theorem toJson_normal_hasty :
    ofJson .did hastyValue = .ok hasty ∧ (∀ r ∈ hasty.entries, r.HasWireYear) ∧
      ∃ w c, hasty.toJson = .ok w ∧ ofJson .did w = .ok c ∧ c.WellFormed ∧
        c.entries.Pairwise (fun r s => r.timestamp.instant ≤ s.timestamp.instant) ∧ c.Rounds hasty ∧
          c.toJson = .ok w := by
  have hread : ofJson .did hastyValue = .ok hasty := toOption_eq_some.mp (by decide +kernel)
  have hyear : ∀ r ∈ hasty.entries, r.HasWireYear := by
    intro r hr
    simp only [hasty, List.mem_cons, List.not_mem_nil, or_false] at hr
    rcases hr with rfl | rfl <;> exact ⟨by decide +kernel, by decide +kernel⟩
  exact ⟨hread, hyear, toJson_normal hread hyear⟩

end

end Biography

end DidRegistry
