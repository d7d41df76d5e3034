import DidRegistry.Platform.Usual
import DidRegistry.Proofs.Biography.Construction
import DidRegistry.Proofs.Biography.Extension

/-!
# Histories in pages

A history may come in parts: page by page, or as the latest transaction alone.  The check does not depend on
where a history is cut.  Every entry is checked on its own, and an entry is only compared with its neighbour,
so that nothing but the comparison at the cut is lost when a history is cut, and that comparison is all that
has to be made when parts are put together.

## Results

* `Biography.check_append_iff` — **a history passes exactly when its two parts do and the later one continues
  the earlier one**.
* `Biography.check_infix` — so every part of a history that passes does.
* `Biography.ofJson_page` — a page of a list of transactions that can be read can be read, and gives that part
  of the history.
* `Biography.check_pages` — all of it together.
-/

set_option autoImplicit false

namespace DidRegistry

namespace Biography

variable {variety : Variety} {subject : Json} {status : Status} {es rs : List Entry}

/-! ## Parts of a history -/

/-- A biography with entries passes its check exactly when its subject is an identifier that is found, and the
entries are a history of it. -/
theorem check_eq_ok_iff_of_entries [Platform] (h : es ≠ []) :
    check ⟨variety, subject, status, es⟩ = .ok () ↔
      (∃ s, identifierOf variety subject = .ok s) ∧ status ≠ .notFound ∧ IsHistory variety subject es := by
  rw [check_eq_ok_iff_isHistory]
  simp only [h, iff_false, ne_eq]

/-- **A history passes exactly when its two parts do and the later one continues the earlier one.** -/
theorem check_append_iff [Platform] (he : es ≠ []) (hr : rs ≠ []) :
    check ⟨variety, subject, status, es ++ rs⟩ = .ok () ↔
      check ⟨variety, subject, status, es⟩ = .ok () ∧ check ⟨variety, subject, status, rs⟩ = .ok () ∧
        Continues es rs := by
  rw [check_eq_ok_iff_of_entries (List.append_ne_nil_of_left_ne_nil he rs), check_eq_ok_iff_of_entries he,
    check_eq_ok_iff_of_entries hr, isHistory_append]
  constructor
  · rintro ⟨hid, hfound, hes, hrs, hc⟩
    exact ⟨⟨hid, hfound, hes⟩, ⟨hid, hfound, hrs⟩, hc⟩
  · rintro ⟨⟨hid, hfound, hes⟩, ⟨-, -, hrs⟩, hc⟩
    exact ⟨hid, hfound, hes, hrs, hc⟩

/-- Whatever stands between two places of a history is a history. -/
theorem IsHistory.infix [Platform] (h : IsHistory variety subject es) (hr : rs <:+: es) :
    IsHistory variety subject rs := by
  obtain ⟨front, back, rfl⟩ := hr
  obtain ⟨hleft, -, -⟩ := isHistory_append.mp h
  exact (isHistory_append.mp hleft).2.1

/-- Every part of a history that passes does. -/
theorem check_infix [Platform] (hr : rs ≠ []) (hpart : rs <:+: es)
    (h : check ⟨variety, subject, status, es⟩ = .ok ()) : check ⟨variety, subject, status, rs⟩ = .ok () := by
  have he : es ≠ [] := by
    rintro rfl
    exact hr (List.infix_nil.mp hpart)
  obtain ⟨hid, hfound, hhistory⟩ := (check_eq_ok_iff_of_entries he).mp h
  exact (check_eq_ok_iff_of_entries hr).mpr ⟨hid, hfound, hhistory.infix hpart⟩

theorem continues_iff {last first : Entry} :
    Continues (es ++ [last]) (first :: rs) ↔
      first.timestamp.isBefore last.timestamp = false ∧
        (first.operation.previous = none ∨ first.operation.previous = some last.txid) := by
  simp only [Continues, List.getLast?_concat, List.head?_cons, Option.mem_some_iff, forall_eq']
  constructor
  · rintro ⟨ordered, chained⟩
    refine ⟨ordered, ?_⟩
    cases hp : first.operation.previous with
    | none => exact .inl rfl
    | some previous => exact .inr (congrArg some (chained previous hp))
  · rintro ⟨ordered, hp⟩
    refine ⟨ordered, fun previous hprevious => ?_⟩
    rw [hprevious] at hp
    exact hp.elim nofun Option.some.inj

/-! ## Pages -/

/-- A value lists a page of the transactions that another one lists, of the same subject and with the same
status. -/
structure IsPage (variety : Variety) (page whole : Json) : Prop where
  object : ∃ ms, page = .obj ms
  subject : page.get? variety.subjectKey = whole.get? variety.subjectKey
  status : page.get? "status" = whole.get? "status"
  transactions : ∃ before vs after, vs ≠ [] ∧
    whole.get? "transaction" = some (.arr (before ++ vs ++ after)) ∧
    page.get? "transaction" = some (.arr vs)

theorem entriesOf_of_transactions {v : Json} {vs : List Json} (h : v.get? "transaction" = some (.arr vs)) :
    entriesOf subject v = .ok vs := by
  unfold entriesOf
  rw [h]
  rfl

theorem readEntries_page {before vs after : List Json} {index : Nat}
    (h : readEntries subject index (before ++ vs ++ after) = .ok rs) :
    ∃ part, readEntries subject 0 vs = .ok part ∧ part <:+: rs := by
  -- an entry is read from one value, so that the entries are cut where the values are
  refine ⟨(rs.drop before.length).take vs.length, readEntries_eq_ok_iff.mpr ?_, ?_⟩
  · have hpart := List.forall₂_take vs.length
      (List.forall₂_drop before.length (readEntries_eq_ok_iff.mp h))
    rwa [List.append_assoc, List.drop_left, List.take_left] at hpart
  · exact (List.take_prefix _ _).isInfix.trans (List.drop_suffix _ _).isInfix

/-- A page of a list of transactions that can be read can be read, and gives that part of the history. -/
theorem ofJson_page [Platform] {page whole : Json} {b : Biography} (h : ofJson variety whole = .ok b)
    (hp : IsPage variety page whole) :
    ∃ c, ofJson variety page = .ok c ∧ c.subject = b.subject ∧ c.status = b.status ∧ c.entries ≠ [] ∧
      c.entries <:+: b.entries := by
  obtain ⟨hvariety, ⟨-, hsubject, hstatus, items, hitems, hread⟩, hc⟩ := ofJson_eq_ok_iff.mp h
  obtain ⟨before, vs, after, hvs, hwhole, hpage⟩ := hp.transactions
  cases (entriesOf_of_transactions hwhole).symm.trans hitems
  obtain ⟨part, hpart, hinfix⟩ := readEntries_page hread
  have hne : part ≠ [] := by
    rintro rfl
    exact hvs (List.forall₂_nil_right_iff.mp (readEntries_eq_ok_iff.mp hpart))
  refine ⟨⟨b.variety, b.subject, b.status, part⟩, ofJson_eq_ok_iff.mpr ⟨hvariety, ?_, ?_⟩, rfl, rfl, hne,
    hinfix⟩
  · exact {
      object := hp.object
      subject := by
        rw [subjectOf_eq_ok_iff] at hsubject ⊢
        rwa [hvariety, hp.subject, ← hvariety]
      status := by
        unfold statusOf at hstatus ⊢
        rwa [hp.status]
      entries := ⟨vs, entriesOf_of_transactions hpage, hpart⟩ }
  · exact check_infix hne hinfix hc

/-- **The check does not depend on where a history is cut.**  Entries that are put together pass exactly when
both parts do, the later part does not start earlier than the other one ends, and it names, if it names any,
the transaction that the other one ends with; this is so for every subject and status.  So every part of a
history that passes does, and every page of a list that can be read can be read. -/
theorem check_pages [Platform] (variety : Variety) (subject : Json) (status : Status) :
    (∀ (es : List Entry) (last first : Entry) (rs : List Entry),
      check ⟨variety, subject, status, (es ++ [last]) ++ (first :: rs)⟩ = .ok () ↔
        check ⟨variety, subject, status, es ++ [last]⟩ = .ok () ∧
          check ⟨variety, subject, status, first :: rs⟩ = .ok () ∧
          first.timestamp.isBefore last.timestamp = false ∧
          (first.operation.previous = none ∨ first.operation.previous = some last.txid)) ∧
    (∀ es rs : List Entry, rs ≠ [] → rs <:+: es → check ⟨variety, subject, status, es⟩ = .ok () →
      check ⟨variety, subject, status, rs⟩ = .ok ()) ∧
    ∀ (page whole : Json) (b : Biography), ofJson variety whole = .ok b → IsPage variety page whole →
      ∃ c, ofJson variety page = .ok c ∧ c.subject = b.subject ∧ c.status = b.status ∧ c.entries ≠ [] ∧
        c.entries <:+: b.entries := by
  refine ⟨fun es last first rs => ?_, fun es rs hr hpart h => check_infix hr hpart h,
    fun page whole b h hp => ofJson_page h hp⟩
  rw [check_append_iff (List.concat_ne_nil last es) (List.cons_ne_nil first rs), continues_iff]

section

attribute [local instance] Platform.usual

/-- The transactions of a DID that was updated after it had been deactivated can be read page by page: the
last one alone gives the end of the history, and the history passes without its first one. -/
theorem check_pages_latest :
    ∃ x y z, ofJson .did (listing .did "did:example:123" .valid [x, y, z]) = .ok reopened ∧
      (∃ c, ofJson .did (listing .did "did:example:123" .valid [z]) = .ok c ∧
        c.subject = reopened.subject ∧ c.status = reopened.status ∧ c.entries ≠ [] ∧
          c.entries <:+: reopened.entries) ∧
      check ⟨.did, reopened.subject, .valid, [.deactivated, .renewed]⟩ = .ok () := by
  have hlisted : ([Entry.created, .deactivated, .renewed].mapM Entry.toJson).toOption.any (fun vs =>
      vs.length = 3 ∧ (ofJson .did (listing .did "did:example:123" .valid vs)).toOption = some reopened) := by
    decide +kernel
  obtain ⟨vs, -, hvs⟩ := (Option.any_eq_true _ _).mp hlisted
  obtain ⟨hlength, hread⟩ := of_decide_eq_true hvs
  obtain ⟨x, y, z, rfl⟩ := List.length_eq_three.mp hlength
  have hwhole := toOption_eq_some.mp hread
  obtain ⟨-, parts, pages⟩ := check_pages .did reopened.subject .valid
  have hpage : IsPage .did (listing .did "did:example:123" .valid [z])
      (listing .did "did:example:123" .valid [x, y, z]) := {
    object := ⟨_, rfl⟩
    subject := rfl
    status := rfl
    transactions := ⟨[x, y], [z], [], List.cons_ne_nil z [], rfl, rfl⟩ }
  refine ⟨x, y, z, hwhole, pages _ _ _ hwhole hpage, ?_⟩
  exact parts reopened.entries _ (List.cons_ne_nil _ _) (List.suffix_cons Entry.created _).isInfix
    (ofJson_eq_ok hwhole).2

end

end Biography

end DidRegistry
