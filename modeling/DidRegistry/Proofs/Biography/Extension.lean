import DidRegistry.Platform.Usual
import DidRegistry.Proofs.Biography.HandedOut

/-!
# Histories that grow

A history is checked entry by entry and between neighbours, so that it may be taken apart and put together
at any place: what comes later only has to continue what is there.  The status that a history implies is
told by its last entry alone.

Both together say how far the end of a subject is an end.  An operation that ends the life of the subject
is checked as any other one is, and nothing keeps another operation from following it; the subject is
ended for as long as the history ends in such an operation.

## Results

* `Biography.check_eq_ok_iff_isHistory` — a biography is an identifier, a status that says whether there are
  entries, and a history.
* `Biography.isHistory_append` — **two histories make one exactly when the later one continues the earlier
  one**.
* `Biography.impliedStatus_append` — only the last entry tells the status.
* `Biography.extended_handedOut` — **a history may be extended by whatever continues it**, after the end of
  its subject too, and is that of an ended subject exactly while its last operation is the terminal one.
-/

set_option autoImplicit false

namespace DidRegistry

namespace Biography

variable {variety : Variety} {subject : Json} {es rs : List Entry}

/-! ## Histories -/

/-- Entries are a history of a subject: each of them suits the subject, and each may come right after the
one before it. -/
structure IsHistory [Platform] (variety : Variety) (subject : Json) (entries : List Entry) : Prop where
  suits : ∀ r ∈ entries, r.check variety subject = .ok ()
  inOrder : entries.IsChain Follows

/-- Where one history stops and another one starts, the second continues the first. -/
def Continues (es rs : List Entry) : Prop := ∀ x ∈ es.getLast?, ∀ r ∈ rs.head?, Follows x r

/-- **Two histories make one exactly when the later one continues the earlier one.** -/
theorem isHistory_append [Platform] :
    IsHistory variety subject (es ++ rs) ↔
      IsHistory variety subject es ∧ IsHistory variety subject rs ∧ Continues es rs := by
  constructor
  · rintro ⟨hs, ho⟩
    obtain ⟨he, hr, hc⟩ := List.isChain_append.mp ho
    exact ⟨⟨fun r h => hs r (List.mem_append_left _ h), he⟩,
      ⟨fun r h => hs r (List.mem_append_right _ h), hr⟩, hc⟩
  · rintro ⟨⟨hse, he⟩, ⟨hsr, hr⟩, hc⟩
    refine ⟨fun r h => ?_, List.isChain_append.mpr ⟨he, hr, hc⟩⟩
    exact (List.mem_append.mp h).elim (hse r) (hsr r)

theorem isHistory_singleton [Platform] {r : Entry} :
    IsHistory variety subject [r] ↔ r.check variety subject = .ok () :=
  ⟨fun h => h.suits r (List.mem_singleton.mpr rfl),
    fun h => ⟨by simpa using h, List.isChain_singleton r⟩⟩

/-- A biography passes its check exactly when its subject is an identifier of its kind, its status says
whether there are entries, and these are a history of the subject. -/
theorem check_eq_ok_iff_isHistory [Platform] {b : Biography} :
    b.check = .ok () ↔ (∃ s, identifierOf b.variety b.subject = .ok s) ∧
      (b.status = .notFound ↔ b.entries = []) ∧ IsHistory b.variety b.subject b.entries := by
  rw [check_eq_ok_iff]
  constructor
  · rintro ⟨⟨t, owner, ht, ho, hall⟩, hfound, hord, hchain⟩
    refine ⟨identifierOf_eq_ok_iff.mpr ⟨t, owner, ht, ho⟩, hfound, fun r hr => ?_,
      isChain_follows_iff.mpr ⟨hord, hchain⟩⟩
    rw [ht]
    exact (Entry.check_eq_ok_iff ho).mpr (hall r hr)
  · rintro ⟨hid, hfound, hs, hc⟩
    obtain ⟨t, owner, ht, ho⟩ := identifierOf_eq_ok_iff.mp hid
    obtain ⟨hord, hchain⟩ := isChain_follows_iff.mp hc
    refine ⟨⟨t, owner, ht, ho, fun r hr => (Entry.check_eq_ok_iff ho).mp ?_⟩, hfound, hord, hchain⟩
    rw [← ht]
    exact hs r hr

/-! ## The status that a history implies -/

theorem impliedStatus_eq_notFound : impliedStatus variety es = .notFound ↔ es = [] := by
  rcases List.eq_nil_or_concat es with rfl | ⟨front, last, rfl⟩
  · simp [impliedStatus]
  · simp only [impliedStatus, List.concat_eq_append, List.getLast?_concat, List.append_eq_nil_iff,
      List.cons_ne_self, and_false, iff_false]
    split <;> simp

/-- Only the last entry tells the status that a history implies. -/
theorem impliedStatus_append (h : rs ≠ []) :
    impliedStatus variety (es ++ rs) = impliedStatus variety rs := by
  unfold impliedStatus
  rw [List.getLast?_append_of_ne_nil es h]

theorem impliedStatus_concat (es : List Entry) (r : Entry) :
    impliedStatus variety (es ++ [r]) =
      if r.operation.kind = Text.ofString variety.terminalKind then .ended else .valid := by
  rw [impliedStatus_append (List.cons_ne_nil r [])]
  rfl

/-! ## Extensions -/

/-- The biography with more entries at its end, and the status that all entries imply. -/
def extended (b : Biography) (rs : List Entry) : Biography :=
  { b with status := impliedStatus b.variety (b.entries ++ rs), entries := b.entries ++ rs }

theorem check_extended_iff [Platform] {b : Biography} (h : b.check = .ok ()) :
    (b.extended rs).check = .ok () ↔
      IsHistory b.variety b.subject rs ∧ Continues b.entries rs := by
  obtain ⟨hid, -, hb⟩ := check_eq_ok_iff_isHistory.mp h
  rw [check_eq_ok_iff_isHistory]
  exact ⟨fun ⟨_, _, hh⟩ => (isHistory_append.mp hh).2,
    fun hr => ⟨hid, impliedStatus_eq_notFound, isHistory_append.mpr ⟨hb, hr⟩⟩⟩

theorem HandedOut.check [Platform] {b : Biography} (h : b.HandedOut) : b.check = .ok () := by
  rcases h with h | h
  · exact (ofJson_eq_ok h).2
  · exact BiographyDraft.results_finished h

theorem handedOut_of_check [Platform] {b : Biography} (h : b.check = .ok ()) : b.HandedOut :=
  .built (check_eq_ok_iff.mp h).built

/-- **A history may be extended by whatever continues it.**  What the operations are that are there already
does not matter, the one that ends the life of the subject included.  The extension is the history of an
ended subject exactly when its own last operation is that one. -/
theorem extended_handedOut [Platform] {b : Biography} (h : b.HandedOut) (rs : List Entry) :
    ((b.extended rs).HandedOut ↔ IsHistory b.variety b.subject rs ∧ Continues b.entries rs) ∧
      ∀ r, rs.getLast? = some r →
        (b.extended rs).status =
          if r.operation.kind = Text.ofString b.variety.terminalKind then .ended else .valid := by
  refine ⟨⟨fun he => (check_extended_iff h.check).mp he.check,
    fun hr => handedOut_of_check ((check_extended_iff h.check).mpr hr)⟩, fun r hr => ?_⟩
  obtain ⟨front, rfl⟩ := List.getLast?_eq_some_iff.mp hr
  show impliedStatus b.variety (b.entries ++ (front ++ [r])) = _
  rw [← List.append_assoc, impliedStatus_concat]

end Biography

/-- A transaction on the DID `did:example:123`, on a day of March 2024. -/
def Entry.sample (digit : Char) (kind payload : String) (day : Nat) : Entry where
  subject := .str "did:example:123"
  txid := .ofChars (List.replicate 64 digit)
  timestamp := ⟨⟨2024, 3, day⟩, 10, 0, 0, 0, some 0, none⟩
  operation := ⟨"elastos/did/1.0", kind, none, payload, "#primary", "c2ln", "ECDSAsecp256r1"⟩

/-- It creates the DID. -/
def Entry.created : Entry := .sample '1' "create" "eyJpZCI6ImRpZDpleGFtcGxlOjEyMyJ9" 1

/-- It deactivates the DID. -/
def Entry.deactivated : Entry := .sample '2' "deactivate" "ZGlkOmV4YW1wbGU6MTIz" 2

/-- It updates the DID. -/
def Entry.renewed : Entry := .sample '3' "update" "eyJpZCI6ImRpZDpleGFtcGxlOjEyMyJ9" 3

namespace Biography

/-- The biography of a DID that has been deactivated. -/
def closed : Biography := ⟨.did, .str "did:example:123", .ended, [.created, .deactivated]⟩

/-- The biography of a DID that has been updated after it was deactivated. -/
def reopened : Biography := ⟨.did, .str "did:example:123", .valid, [.created, .deactivated, .renewed]⟩

section

attribute [local instance] Platform.usual

theorem extended_handedOut_closed :
    closed.HandedOut ∧ impliedStatus closed.variety closed.entries = .ended ∧
      (closed.extended [.renewed]).HandedOut ∧ (closed.extended [.renewed]).status = .valid := by
  have hclosed : closed.HandedOut := handedOut_of_check (toOption_eq_some.mp (by decide +kernel))
  obtain ⟨hiff, hstatus⟩ := extended_handedOut hclosed [.renewed]
  refine ⟨hclosed, by decide +kernel, hiff.mpr ⟨?_, ?_⟩, ?_⟩
  · exact isHistory_singleton.mpr (toOption_eq_some.mp (by decide +kernel))
  · intro x hx r hr
    cases hx
    cases hr
    exact ⟨by decide +kernel, fun previous hp => by cases hp⟩
  · exact (hstatus .renewed rfl).trans (if_neg (by decide +kernel))

/-- A transaction follows one that ends the life of the subject, in a biography that is read from its own
value, and the subject counts as valid again. -/
theorem terminal_not_final :
    ∃ v, reopened.toJson = .ok v ∧ ofJson .did v = .ok reopened ∧
      reopened.entries = closed.entries ++ [.renewed] ∧
      impliedStatus .did closed.entries = .ended ∧ impliedStatus .did reopened.entries = .valid := by
  have h : (reopened.toJson.toOption.bind fun v => (ofJson .did v).toOption) = some reopened := by
    decide +kernel
  obtain ⟨v, hv, hb⟩ := Option.bind_eq_some_iff.mp h
  exact ⟨v, toOption_eq_some.mp hv, toOption_eq_some.mp hb, rfl, by decide +kernel, by decide +kernel⟩

end

end Biography

end DidRegistry
