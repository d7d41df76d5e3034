import DidRegistry.Platform.Usual
import DidRegistry.Proofs.Biography.Extension

/-!
# The status of a biography

A biography says what its status is, and its history implies one.  A biography that is finished without a
status gets the one that its history implies.  A status that is given, by a value on the wire or by the
caller who finishes a draft, stays as it is given; it is held against the history in one respect only, that
a subject is not found exactly when it has no history.

## Results

* `Biography.check_withStatus_iff` — whether a history passes with a status.
* `Biography.ofJson_status` — the status that is read is the one whose code the value has.
* `Biography.status_as_given` — **a given status agrees with the history on whether the subject is found,
  and no further**.
-/

set_option autoImplicit false

namespace DidRegistry

namespace Status

theorem eq_code_of_ofCode? {n : Int} {s : Status} (h : ofCode? n = some s) : n = s.code := by
  unfold ofCode? at h
  split_ifs at h with hvalid hended hnone <;> cases h <;> assumption

theorem ofJson_eq_ok {v : Json} {s : Status} (h : ofJson v = .ok s) : v = .int s.code := by
  unfold ofJson at h
  split at h
  · split at h
    · cases h
    · split at h
      · rename_i t ht
        cases h
        rw [eq_code_of_ofCode? ht]
      · cases h
  · cases h

end Status

namespace Biography

/-- The biography with another status. -/
def withStatus (b : Biography) (s : Status) : Biography := { b with status := s }

/-- A history passes with exactly those statuses that say rightly whether there is one. -/
theorem check_withStatus_iff [Platform] {b : Biography} (h : b.check = .ok ()) {s : Status} :
    (b.withStatus s).check = .ok () ↔ (s = .notFound ↔ b.entries = []) := by
  obtain ⟨hid, -, hb⟩ := check_eq_ok_iff_isHistory.mp h
  rw [check_eq_ok_iff_isHistory]
  exact ⟨fun hs => hs.2.1, fun hs => ⟨hid, hs, hb⟩⟩

/-- The status that is read is the one whose code the value has. -/
theorem ofJson_status [Platform] {variety : Variety} {v : Json} {b : Biography}
    (h : ofJson variety v = .ok b) :
    v.get? "status" = some (.int b.status.code) := by
  obtain ⟨-, hparts, -⟩ := ofJson_eq_ok_iff.mp h
  have hs := hparts.status
  unfold statusOf at hs
  split at hs
  · cases hs
  · rename_i code hc
    split at hs
    · rename_i s hcode
      cases hs
      rw [hc, Status.ofJson_eq_ok hcode]
    · cases hs

theorem finish_eq_ok [Platform] {draft : BiographyDraft} {status : Option Status} {b : Biography}
    (h : (draft.finish status).1 = .ok b) :
    b = draft.biography status ∧ b.check = .ok () := by
  obtain ⟨rfl, hc⟩ := checked_eq_ok h
  exact ⟨rfl, hc⟩

/-- The status of a biography agrees with its history on whether the subject is found, and no further: the
same history is handed out with any status that agrees with it so. -/
structure AgreesOnFound [Platform] (b : Biography) : Prop where
  found : b.status = .notFound ↔ b.entries = []
  implied : b.status = .notFound ↔ impliedStatus b.variety b.entries = .notFound
  any : ∀ s, (b.withStatus s).HandedOut ↔ (s = .notFound ↔ b.entries = [])

theorem agreesOnFound_of_check [Platform] {b : Biography} (h : b.check = .ok ()) : b.AgreesOnFound := by
  obtain ⟨-, hfound, -⟩ := check_eq_ok_iff_isHistory.mp h
  exact ⟨hfound, hfound.trans impliedStatus_eq_notFound.symm, fun s =>
    ⟨fun hs => (check_withStatus_iff h).mp hs.check,
      fun hs => handedOut_of_check ((check_withStatus_iff h).mpr hs)⟩⟩

/-- **A given status agrees with the history on whether the subject is found, and no further.**  A biography
that is read has the status that the value gives, and one that is finished with a status has that status;
only one that is finished without gets the status that its history implies. -/
theorem status_as_given [Platform] (b : Biography) :
    (∀ variety v, ofJson variety v = .ok b →
        v.get? "status" = some (.int b.status.code) ∧ b.AgreesOnFound) ∧
      (∀ (draft : BiographyDraft) status, (draft.finish (some status)).1 = .ok b →
        b.status = status ∧ b.AgreesOnFound) ∧
      ∀ draft : BiographyDraft, (draft.finish none).1 = .ok b →
        b.status = impliedStatus b.variety b.entries := by
  refine ⟨fun variety v h => ?_, fun draft status h => ?_, fun draft h => ?_⟩
  · exact ⟨ofJson_status h, agreesOnFound_of_check (ofJson_eq_ok h).2⟩
  · obtain ⟨rfl, hc⟩ := finish_eq_ok h
    exact ⟨rfl, agreesOnFound_of_check hc⟩
  · obtain ⟨rfl, -⟩ := finish_eq_ok h
    rfl

/-- The biography of a deactivated DID, said to be valid. -/
def mislabelled : Biography := closed.withStatus .valid

section

attribute [local instance] Platform.usual

theorem status_as_given_mislabelled :
    ((BiographyDraft.mk .did mislabelled.subject mislabelled.entries false).finish (some .valid)).1 =
        .ok mislabelled ∧
      mislabelled.AgreesOnFound := by
  have h : ((BiographyDraft.mk .did mislabelled.subject mislabelled.entries false).finish
      (some .valid)).1 = .ok mislabelled := toOption_eq_some.mp (by decide +kernel)
  exact ⟨h, ((status_as_given mislabelled).2.1 _ _ h).2⟩

/-- A DID whose last transaction deactivates it is read as a valid one. -/
theorem mislabelled_readBack :
    ∃ v, mislabelled.toJson = .ok v ∧ ofJson .did v = .ok mislabelled ∧
      mislabelled.latest?.map (·.operation.kind) = some (Text.ofString Variety.did.terminalKind) ∧
      mislabelled.status = .valid ∧ impliedStatus .did mislabelled.entries = .ended := by
  have h : (mislabelled.toJson.toOption.bind fun v => (ofJson .did v).toOption) = some mislabelled := by
    decide +kernel
  obtain ⟨v, hv, hb⟩ := Option.bind_eq_some_iff.mp h
  exact ⟨v, toOption_eq_some.mp hv, toOption_eq_some.mp hb, by decide +kernel, rfl, by decide +kernel⟩

end

end Biography

end DidRegistry
