import DidRegistry.Biography.Basic
import DidRegistry.Proofs.Identifier
import DidRegistry.Proofs.Outcome
import Mathlib.Data.List.Chain
import Mathlib.Data.List.Forall2

/-!
# Well formed biographies

What a biography is like that is handed out, said of the history as a whole and without the checks that
refuse it: every entry suits the subject, and none counts as earlier than the one before it.  Neighbours are
compared by the instants that they name, unless their times are told by the clocks of one region, which are
put back once a year.  So instants never decrease, however far apart two entries stand and in whatever zones
their times are written, exactly when they do not between neighbours of one region.

## Results

* `Entry.check_eq_ok_iff` — an entry passes its check exactly when it suits its subject.
* `Biography.checkOrder_eq_ok_iff` — the order of the entries is checked between neighbours.
* `Biography.check_eq_ok_iff` — **a biography passes its check exactly when it is well formed**.
* `Biography.WellFormed.instants_iff` — where the instants of its entries never decrease.
* `Biography.readEntries_eq_ok_iff` — the entries that are read are those that the values give, one for each.
* `Biography.ofJson_eq_ok_iff` — it is read from a value when its parts are and it passes its check.
-/

set_option autoImplicit false

namespace DidRegistry

/-! ## Entries that suit their subject -/

theorem Variety.any_kind_iff {kinds : List String} {kind : Text} :
    (kinds.any fun k => kind = k) = true ↔ kind ∈ kinds.map Text.ofString := by
  rw [List.any_eq_true, List.mem_map]
  exact exists_congr fun k => and_congr_right fun _ => decide_eq_true_iff.trans eq_comm

theorem Variety.knows_eq_true {variety : Variety} {kind : Text} :
    variety.knows kind = true ↔ kind ∈ variety.kinds.map Text.ofString := any_kind_iff

theorem Variety.carriesDocument_eq_true {variety : Variety} {kind : Text} :
    variety.carriesDocument kind = true ↔ kind ∈ variety.documentKinds.map Text.ofString := any_kind_iff

/-- The DID that a subject belongs to: the subject itself, or the DID of the DID URL that it is. -/
def Variety.ownerOf (variety : Variety) (subject : Text) : Except IdentifierError Did :=
  match variety with
  | .did => Did.parse (.str subject)
  | .credential => (DidUrl.parse (.str subject) none).map DidUrl.did

/-- The payload of an operation suits its subject: where the operation carries a document, it is a JSON
object, which names the subject when that is a DID; where it carries none, it is the subject. -/
inductive Operation.Fits [Platform] (variety : Variety) (subject : Text) (op : Operation Text) : Prop where
  | document {bytes : List UInt8} {ms : Json.Members}
      (kind : op.kind ∈ variety.documentKinds.map Text.ofString)
      (decoded : Payload.bytes op.payload = .ok bytes) (object : Payload.objectOf bytes = .ok ms)
      (about : variety = .did → ms.get? "id" = some (.str subject))
  | name {bytes : List UInt8} {cs : List Char}
      (kind : op.kind ∉ variety.documentKinds.map Text.ofString)
      (decoded : Payload.bytes op.payload = .ok bytes) (text : Payload.textOf bytes = .ok cs)
      (names : Text.ofChars cs = subject)

/-- An entry suits a subject that belongs to the DID `owner`. -/
structure Entry.Suits [Platform] (variety : Variety) (subject : Text) (owner : Did) (r : Entry) : Prop where
  hash : Entry.isTxid r.txid.chars = true
  about : r.subject = .str subject
  zoned : r.timestamp.offset.isSome
  specification : r.operation.specification = Text.ofString variety.specification
  known : r.operation.kind ∈ variety.kinds.map Text.ofString
  payload : r.operation.Fits variety subject
  signed : r.operation.signature.points ≠ []
  /-- Its verification method is a DID URL, if need be one relative to the owner. -/
  method : ∃ url, DidUrl.parse (.str r.operation.method) (some owner) = .ok url

/-- Nothing but the same text equals a text. -/
theorem Json.equals_str {v : Json} {t : Text} : v.equals (.str t) = true ↔ v = .str t := by
  cases v with
  | str s => simp [Json.equals]
  | _ => simp [Json.equals, Json.number?]

theorem Json.Members.get?_of_getD {ms : Members} {key t : Text} (h : (ms.get? key).getD .null = .str t) :
    ms.get? key = some (.str t) := by
  cases hg : ms.get? key with
  | none =>
    rw [hg] at h
    cases h
  | some x =>
    rw [hg] at h
    exact congrArg some h

theorem Timestamp.region_of_assemble? {date : Calendar.Date} {time : Clock} {offset : Option Int}
    {t : Timestamp} (h : assemble? date time offset = some t) : t.region = none := by
  unfold assemble? at h
  dsimp only at h
  split at h
  · cases h
    rfl
  · cases h

theorem Timestamp.region_of_ofText? {text : Text} {t : Timestamp} (h : ofText? text = some t) :
    t.region = none := by
  unfold ofText? at h
  obtain ⟨chars, -, h⟩ := Option.bind_eq_some_iff.mp h
  dsimp only at h
  split at h
  · cases h
  obtain ⟨place, -, h⟩ := Option.bind_eq_some_iff.mp h
  obtain ⟨date, -, h⟩ := Option.bind_eq_some_iff.mp h
  split at h
  · obtain ⟨⟨time, offset⟩, -, h⟩ := Option.bind_eq_some_iff.mp h
    exact region_of_assemble? h
  · exact region_of_assemble? h

namespace Entry

variable {variety : Variety} {subject : Text} {owner : Did}

/-- The DID that verification methods are relative to is the owner of the subject. -/
theorem baseDid_of_ownerOf (h : variety.ownerOf subject = .ok owner) :
    baseDid (.str subject) (subject.chars.contains '#') = .ok owner := by
  unfold baseDid
  cases variety with
  | did =>
    have hn : subject.chars.contains '#' = false := by simpa using Did.mark_not_mem h
    rw [hn]
    exact h
  | credential =>
    obtain ⟨url, hu, rfl⟩ := map_eq_ok.mp h
    have hm : subject.chars.contains '#' = true := by simpa using DidUrl.mark_mem hu
    rw [hm, if_pos rfl, hu]
    rfl

theorem checkPayload_eq_ok_iff [Platform] {r : Entry} :
    r.checkPayload variety (.str subject) = .ok () ↔ r.operation.Fits variety subject := by
  constructor
  · intro h
    unfold checkPayload at h
    split at h
    · cases h
    · rename_i bytes hb
      split at h
      · rename_i hk
        split at h
        · cases h
        · rename_i ms hms
          dsimp only at h
          split at h
          · cases h
          · rename_i hd
            refine .document (Variety.carriesDocument_eq_true.mp hk) hb hms fun hv => ?_
            have he : ((ms.get? "id").getD .null).equals (.str subject) = true := by simpa [hv] using hd
            rw [Json.equals_str] at he
            exact Json.Members.get?_of_getD he
      · rename_i hk
        split at h
        · cases h
        · rename_i cs hcs
          split at h
          · rename_i hs
            exact .name (fun hm => hk (Variety.carriesDocument_eq_true.mpr hm)) hb hcs (Json.str.inj hs).symm
          · cases h
  · rintro (⟨hk, hb, hms, ha⟩ | ⟨hk, hb, hcs, rfl⟩)
    · unfold checkPayload
      simp only [hb, Variety.carriesDocument_eq_true.mpr hk, if_true, hms]
      refine if_neg fun hd => ?_
      rw [ha hd.1] at hd
      simp [Json.equals] at hd
    · have hk' : variety.carriesDocument r.operation.kind = false := by
        rw [← Bool.not_eq_true]
        exact fun hc => hk (Variety.carriesDocument_eq_true.mp hc)
      unfold checkPayload
      simp only [hb, hk', Bool.false_eq_true, if_false, hcs, if_true]

theorem checkProof_eq_ok_iff {r : Entry} (h : variety.ownerOf subject = .ok owner) :
    r.checkProof (.str subject) = .ok () ↔
      r.operation.signature.points ≠ [] ∧
        ∃ url, DidUrl.parse (.str r.operation.method) (some owner) = .ok url := by
  have hbase : (baseDid (.str subject) (subject.chars.contains '#')).bind
      (fun base => DidUrl.parse (.str r.operation.method) (some base)) =
        DidUrl.parse (.str r.operation.method) (some owner) := by
    rw [baseDid_of_ownerOf h]
    rfl
  have hempty : ∀ t : Text, t.isEmpty = false ↔ t.points ≠ [] := by
    intro t
    simp [Text.isEmpty]
  unfold checkProof
  simp only [holdsMark?, hbase]
  constructor
  · intro hc
    split at hc
    · cases hc
    · rename_i hs
      split at hc
      · cases hc
      · split at hc
        · cases hc
        · rename_i url hu
          exact ⟨(hempty _).mp (Bool.eq_false_iff.mpr hs), url, hu⟩
  · rintro ⟨hs, url, hu⟩
    obtain ⟨t, ht, hn, -⟩ := DidUrl.parse_eq_ok hu
    cases ht
    rw [(hempty _).mpr hs, hn, hu]
    rfl

/-- **An entry passes its check exactly when it suits its subject.** -/
theorem check_eq_ok_iff [Platform] {r : Entry} (h : variety.ownerOf subject = .ok owner) :
    r.check variety (.str subject) = .ok () ↔ r.Suits variety subject owner := by
  constructor
  · intro hc
    unfold check at hc
    split at hc
    · cases hc
    rename_i hash
    split at hc
    · cases hc
    rename_i about
    split at hc
    · cases hc
    rename_i zoned
    split at hc
    · cases hc
    rename_i specification
    split at hc
    · cases hc
    rename_i known
    split at hc
    · cases hc
    rename_i payload
    obtain ⟨signed, method⟩ := (checkProof_eq_ok_iff h).mp hc
    exact {
      hash := by simpa using hash
      about := Json.equals_str.mp (by simpa using about)
      zoned := by simpa [Timestamp.hasZone, Option.isSome_iff_ne_none] using zoned
      specification := not_not.mp specification
      known := Variety.knows_eq_true.mp (by simpa using known)
      payload := checkPayload_eq_ok_iff.mp payload
      signed
      method }
  · intro hs
    unfold check
    simp only [hs.hash, Json.equals_str.mpr hs.about, Timestamp.hasZone, hs.zoned, hs.specification,
      Variety.knows_eq_true.mpr hs.known, checkPayload_eq_ok_iff.mpr hs.payload,
      (checkProof_eq_ok_iff h).mpr ⟨hs.signed, hs.method⟩, Bool.not_true, Bool.false_eq_true, if_false,
      ne_eq, not_true_eq_false]

theorem ofJson_eq_ok {v subject : Json} {r : Entry} (h : ofJson v subject = .ok r) :
    r.subject = subject ∧ ∃ text, readTime text = .ok r.timestamp := by
  unfold ofJson at h
  split at h
  · cases h
  split at h
  · cases h
  · rename_i ht
    split at h
    · cases h
      exact ⟨rfl, _, ht⟩
    · cases h

theorem readTime_eq_ok {text : Text} {t : Timestamp} (h : readTime text = .ok t) :
    Timestamp.ofText? text = some t ∧ t.hasZone = true := by
  unfold readTime at h
  split at h
  · cases h
  · rename_i ht
    split at h
    · rename_i hz
      cases h
      exact ⟨ht, hz⟩
    · cases h

theorem region_of_ofJson {v subject : Json} {r : Entry} (h : ofJson v subject = .ok r) :
    r.timestamp.region = none := by
  obtain ⟨-, text, htext⟩ := ofJson_eq_ok h
  exact Timestamp.region_of_ofText? (readTime_eq_ok htext).1

end Entry

/-! ## Biographies -/

/-- A biography is well formed: its subject is an identifier of its kind, which every entry suits, there
are entries exactly when the subject is found, no entry counts as earlier than the one before it, and one that
names the transaction it follows names the one before it. -/
structure Biography.WellFormed [Platform] (b : Biography) : Prop where
  entries : ∃ subject owner, b.subject = .str subject ∧ b.variety.ownerOf subject = .ok owner ∧
    ∀ r ∈ b.entries, r.Suits b.variety subject owner
  found : b.status = .notFound ↔ b.entries = []
  ordered : b.entries.IsChain fun before r => r.timestamp.isBefore before.timestamp = false
  chained : b.entries.IsChain fun before r =>
    ∀ previous, r.operation.previous = some previous → previous = before.txid

namespace Biography

/-- An entry may come right after the entry `before`. -/
structure Follows (before r : Entry) : Prop where
  ordered : r.timestamp.isBefore before.timestamp = false
  chained : ∀ previous, r.operation.previous = some previous → previous = before.txid

theorem checkStep_eq_ok_iff {subject : Json} {index : Nat} {before r : Entry} :
    checkStep subject index before r = .ok () ↔ Follows before r := by
  unfold checkStep
  constructor
  · intro h
    split at h
    · cases h
    · rename_i ht
      refine ⟨Bool.eq_false_iff.mpr ht, fun previous hp => ?_⟩
      rw [hp] at h
      by_contra hn
      exact absurd h (by simp [hn])
  · rintro ⟨ht, hp⟩
    rw [if_neg (Bool.eq_false_iff.mp ht)]
    split
    · rfl
    · rename_i previous hr
      rw [if_neg (not_not.mpr (hp previous hr))]

/-- The order of the entries is checked between neighbours. -/
theorem checkOrder_eq_ok_iff {subject : Json} {index : Nat} {entries : List Entry} :
    checkOrder subject index entries = .ok () ↔ entries.IsChain Follows := by
  fun_induction checkOrder subject index entries with
  | case1 index before r rs e he =>
    simp only [List.isChain_cons_cons, reduceCtorEq, false_iff, not_and]
    intro hf
    rw [checkStep_eq_ok_iff.mpr hf] at he
    cases he
  | case2 index before r rs u hu ih =>
    rw [List.isChain_cons_cons, ih]
    exact (and_iff_right (checkStep_eq_ok_iff.mp hu)).symm
  | case3 entries index hn =>
    rcases entries with _ | ⟨before, _ | ⟨r, rs⟩⟩
    · simp
    · simp
    · exact (hn before r rs rfl).elim

theorem checkEntries_eq_ok_iff [Platform] {variety : Variety} {subject : Json} {index : Nat}
    {entries : List Entry} :
    checkEntries variety subject index entries = .ok () ↔
      ∀ r ∈ entries, r.check variety subject = .ok () := by
  induction entries generalizing index with
  | nil => simp [checkEntries]
  | cons r rs ih =>
    unfold checkEntries
    cases hr : r.check variety subject with
    | error e => simp [hr]
    | ok u => simpa [hr] using ih

/-- Entries may follow one another exactly when they are in order and chained. -/
theorem isChain_follows_iff {entries : List Entry} :
    entries.IsChain Follows ↔
      entries.IsChain (fun before r => r.timestamp.isBefore before.timestamp = false) ∧
        entries.IsChain fun before r =>
          ∀ previous, r.operation.previous = some previous → previous = before.txid := by
  constructor
  · intro h
    exact ⟨h.imp fun _ _ hf => hf.ordered, h.imp fun _ _ hf => hf.chained⟩
  · rintro ⟨ht, hp⟩
    exact List.isChain_iff_getElem.mpr fun i hi => ⟨ht.getElem i hi, hp.getElem i hi⟩

theorem identifierOf_eq_ok_iff {variety : Variety} {subject : Json} :
    (∃ s, identifierOf variety subject = .ok s) ↔
      ∃ t owner, subject = .str t ∧ variety.ownerOf t = .ok owner := by
  cases variety with
  | did =>
    constructor
    · rintro ⟨s, h⟩
      obtain ⟨d, hd, -⟩ := map_eq_ok.mp h
      obtain ⟨t, rfl, -⟩ := Did.parse_eq_ok hd
      exact ⟨t, d, rfl, hd⟩
    · rintro ⟨t, d, rfl, hd⟩
      exact ⟨_, map_eq_ok.mpr ⟨d, hd, rfl⟩⟩
  | credential =>
    constructor
    · rintro ⟨s, h⟩
      obtain ⟨u, hu, -⟩ := map_eq_ok.mp h
      obtain ⟨t, rfl, -⟩ := DidUrl.parse_eq_ok hu
      exact ⟨t, u.did, rfl, map_eq_ok.mpr ⟨u, hu, rfl⟩⟩
    · rintro ⟨t, d, rfl, hd⟩
      obtain ⟨u, hu, -⟩ := map_eq_ok.mp hd
      exact ⟨_, map_eq_ok.mpr ⟨u, hu, rfl⟩⟩

theorem isPresent_of_ownerOf {variety : Variety} {subject : Text} {owner : Did}
    (h : variety.ownerOf subject = .ok owner) : (Json.str subject).isPresent = true := by
  have hn : subject.isEmpty = false := by
    cases variety with
    | did =>
      obtain ⟨t, ht, hd⟩ := Did.parse_eq_ok (v := .str subject) h
      cases ht
      rcases subject with ⟨_ | ⟨p, ps⟩⟩
      · cases hd
      · rfl
    | credential =>
      obtain ⟨u, hu, -⟩ := map_eq_ok.mp h
      obtain ⟨t, ht, hn, -⟩ := DidUrl.parse_eq_ok hu
      cases ht
      exact hn
  simp [Json.isPresent, hn]

/-- **A biography passes its check exactly when it is well formed.** -/
theorem check_eq_ok_iff [Platform] {b : Biography} : b.check = .ok () ↔ b.WellFormed := by
  constructor
  · intro h
    unfold check at h
    split at h
    · cases h
    split at h
    · cases h
    rename_i s hs
    obtain ⟨t, owner, ht, ho⟩ := identifierOf_eq_ok_iff.mp ⟨s, hs⟩
    split at h
    · rename_i hf
      split at h
      · rename_i he
        have he : b.entries = [] := List.isEmpty_iff.mp he
        exact ⟨⟨t, owner, ht, ho, by simp [he]⟩, by simp [hf, he], by simp [he], by simp [he]⟩
      · cases h
    · rename_i hf
      split at h
      · cases h
      · rename_i he
        split at h
        · cases h
        · rename_i u hu
          rw [ht] at hu
          have hall := checkEntries_eq_ok_iff.mp hu
          obtain ⟨hord, hchain⟩ := isChain_follows_iff.mp (checkOrder_eq_ok_iff.mp h)
          refine ⟨⟨t, owner, ht, ho, fun r hr => (Entry.check_eq_ok_iff ho).mp (hall r hr)⟩, ?_, hord, hchain⟩
          simp only [List.isEmpty_iff] at he
          simp [hf, he]
  · rintro ⟨⟨t, owner, ht, ho, hall⟩, hfound, hord, hchain⟩
    obtain ⟨s, hs⟩ := identifierOf_eq_ok_iff.mpr ⟨t, owner, rfl, ho⟩
    unfold check
    rw [ht, isPresent_of_ownerOf ho, hs]
    simp only [Bool.not_true, Bool.false_eq_true, if_false]
    by_cases he : b.entries = []
    · simp [hfound.mpr he, he]
    · have hc : checkEntries b.variety (.str t) 0 b.entries = .ok () :=
        checkEntries_eq_ok_iff.mpr fun r hr => (Entry.check_eq_ok_iff ho).mpr (hall r hr)
      rw [if_neg fun hf => he (hfound.mp hf), if_neg (by simpa using he), hc]
      exact checkOrder_eq_ok_iff.mpr (isChain_follows_iff.mpr ⟨hord, hchain⟩)

/-! ## Instants -/

theorem isBefore_eq_false_iff {t s : Timestamp} (h : t.region = none) :
    t.isBefore s = false ↔ s.instant ≤ t.instant := by
  have hfixed : ¬(t.region.isSome ∧ t.region = s.region) := by simp [h]
  rw [Timestamp.isBefore, if_neg hfixed, decide_eq_false_iff_not, Int.not_lt]

/-- The times of two entries are told by the clocks of one region. -/
def ShareRegion (r s : Entry) : Prop := r.timestamp.region.isSome ∧ r.timestamp.region = s.timestamp.region

/-- Entries of one region are in the order of their clocks, any others in that of their instants. -/
theorem instant_le_of_ordered {r s : Entry} (h : s.timestamp.isBefore r.timestamp = false)
    (hshared : ¬ShareRegion r s) : r.timestamp.instant ≤ s.timestamp.instant := by
  have hother : ¬(s.timestamp.region.isSome ∧ s.timestamp.region = r.timestamp.region) :=
    fun hs => hshared ⟨hs.2 ▸ hs.1, hs.2.symm⟩
  rw [Timestamp.isBefore, if_neg hother, decide_eq_false_iff_not] at h
  exact Int.not_lt.mp h

/-- Instants never decrease when they do not between neighbours: the order of instants carries over. -/
theorem pairwise_instants_iff {entries : List Entry} :
    entries.Pairwise (fun r s => r.timestamp.instant ≤ s.timestamp.instant) ↔
      entries.IsChain fun r s => r.timestamp.instant ≤ s.timestamp.instant := by
  let Earlier := fun r s : Entry => r.timestamp.instant ≤ s.timestamp.instant
  have : Trans Earlier Earlier Earlier := ⟨fun h g => Int.le_trans h g⟩
  exact (List.isChain_iff_pairwise (R := Earlier)).symm

/-- **The instants of a well formed biography never decrease exactly when they do not between neighbours
of one region.** -/
theorem WellFormed.instants_iff [Platform] {b : Biography} (h : b.WellFormed) :
    b.entries.Pairwise (fun r s => r.timestamp.instant ≤ s.timestamp.instant) ↔
      b.entries.IsChain fun r s => ShareRegion r s → r.timestamp.instant ≤ s.timestamp.instant := by
  rw [pairwise_instants_iff]
  constructor
  · exact fun hi => hi.imp fun _ _ hle _ => hle
  · intro hi
    refine List.isChain_iff_getElem.mpr fun i hlt => ?_
    by_cases hshared : ShareRegion b.entries[i] b.entries[i + 1]
    · exact hi.getElem i hlt hshared
    · exact instant_le_of_ordered (h.ordered.getElem i hlt) hshared

/-- When no time is told by the clocks of a region, instants never decrease. -/
theorem WellFormed.instants [Platform] {b : Biography} (h : b.WellFormed)
    (hfixed : ∀ r ∈ b.entries, r.timestamp.region = none) :
    b.entries.Pairwise fun r s => r.timestamp.instant ≤ s.timestamp.instant := by
  refine h.instants_iff.mpr (List.isChain_iff_getElem.mpr fun i hi hshared => ?_)
  have hnone := hshared.1
  rw [hfixed _ (List.getElem_mem _)] at hnone
  cases hnone

/-! ## What is read from a value -/

theorem checked_eq_ok [Platform] {b c : Biography} (h : b.checked = .ok c) : c = b ∧ b.check = .ok () := by
  obtain ⟨u, hc, rfl⟩ := map_eq_ok.mp h
  exact ⟨rfl, hc⟩

theorem subjectOf_eq_ok_iff {variety : Variety} {v s : Json} :
    subjectOf variety v = .ok s ↔
      v.get? variety.subjectKey = some s ∧ s.isString = true ∧ s.isPresent = true := by
  constructor
  · intro h
    unfold subjectOf at h
    cases hget : v.get? variety.subjectKey with
    | none =>
      rw [hget] at h
      cases h
    | some x =>
      rw [hget] at h
      simp only [Option.getD_some] at h
      split at h
      · cases h
      · rename_i hp
        split at h
        · cases h
          exact ⟨rfl, rfl, by simpa using hp⟩
        · cases h
  · rintro ⟨hget, hstring, hp⟩
    unfold subjectOf
    simp only [hget, Option.getD_some, hp, Bool.not_true, Bool.false_eq_true, if_false]
    cases s with
    | str t => rfl
    | _ => cases hstring

theorem statusOf_of_code {v subject : Json} {s : Status} (h : v.get? "status" = some (.int s.code)) :
    statusOf subject v = .ok s := by
  unfold statusOf
  rw [h]
  cases s <;> rfl

/-- The entries that are read are those that the values give, one for each. -/
theorem readEntries_eq_ok_iff {subject : Json} {index : Nat} {vs : List Json} {rs : List Entry} :
    readEntries subject index vs = .ok rs ↔
      List.Forall₂ (fun v r => Entry.ofJson v subject = .ok r) vs rs := by
  induction vs generalizing index rs with
  | nil => simp [readEntries, eq_comm]
  | cons v vs ih =>
    unfold readEntries
    rw [List.forall₂_cons_left_iff]
    cases hv : Entry.ofJson v subject with
    | error e => simp
    | ok r =>
      simp only [map_eq_ok, ih, Except.ok.injEq]
      constructor
      · rintro ⟨es, hes, rfl⟩
        exact ⟨r, es, rfl, hes, rfl⟩
      · rintro ⟨_, es, rfl, hes, rfl⟩
        exact ⟨es, hes, rfl⟩

theorem forall_of_readEntries {P : Entry → Prop} {subject : Json}
    (hread : ∀ v r, Entry.ofJson v subject = .ok r → P r) {index : Nat} {vs : List Json} {rs : List Entry}
    (h : readEntries subject index vs = .ok rs) : ∀ r ∈ rs, P r := by
  replace h := readEntries_eq_ok_iff.mp h
  induction h with
  | nil => simp
  | cons hv _ ih => exact List.forall_mem_cons.mpr ⟨hread _ _ hv, ih⟩

/-- The parts of a biography are read from a value. -/
structure PartsOf (v : Json) (b : Biography) : Prop where
  object : ∃ ms, v = .obj ms
  subject : subjectOf b.variety v = .ok b.subject
  status : statusOf b.subject v = .ok b.status
  entries : ∃ items, entriesOf b.subject v = .ok items ∧ readEntries b.subject 0 items = .ok b.entries

/-- A biography is read from a value when its parts are and it passes its check. -/
theorem ofJson_eq_ok_iff [Platform] {variety : Variety} {v : Json} {b : Biography} :
    ofJson variety v = .ok b ↔ b.variety = variety ∧ PartsOf v b ∧ b.check = .ok () := by
  unfold ofJson
  constructor
  · intro h
    split at h
    · rename_i ms
      obtain ⟨subject, hsubject, h⟩ := bind_eq_ok.mp h
      obtain ⟨status, hstatus, h⟩ := bind_eq_ok.mp h
      obtain ⟨items, hitems, h⟩ := bind_eq_ok.mp h
      obtain ⟨entries, hentries, h⟩ := bind_eq_ok.mp h
      obtain ⟨rfl, hc⟩ := checked_eq_ok h
      exact ⟨rfl, ⟨⟨ms, rfl⟩, hsubject, hstatus, items, hitems, hentries⟩, hc⟩
    · cases h
  · rintro ⟨rfl, ⟨⟨ms, rfl⟩, hsubject, hstatus, items, hitems, hentries⟩, hc⟩
    simp only [hsubject, hstatus, hitems, hentries, bind, Except.bind]
    exact map_eq_ok.mpr ⟨(), hc, rfl⟩

theorem ofJson_eq_ok [Platform] {variety : Variety} {v : Json} {b : Biography}
    (h : ofJson variety v = .ok b) : b.variety = variety ∧ b.check = .ok () :=
  ⟨(ofJson_eq_ok_iff.mp h).1, (ofJson_eq_ok_iff.mp h).2.2⟩

theorem region_of_ofJson [Platform] {variety : Variety} {v : Json} {b : Biography}
    (h : ofJson variety v = .ok b) :
    ∀ r ∈ b.entries, r.timestamp.region = none := by
  obtain ⟨-, parts, -⟩ := ofJson_eq_ok_iff.mp h
  obtain ⟨items, -, hentries⟩ := parts.entries
  exact forall_of_readEntries (fun _ _ => Entry.region_of_ofJson) hentries

end Biography

end DidRegistry
