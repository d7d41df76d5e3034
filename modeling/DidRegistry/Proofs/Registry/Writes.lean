import DidRegistry.Platform.Usual
import DidRegistry.Proofs.Biography.Extension
import DidRegistry.Proofs.Registry.Guards

/-!
# Writes and the histories they make

The registry lets an operation that changes a DID pass when the operation follows the latest transaction of
the DID's history; whoever reads the history later holds every transaction against the one before.  The two
sides agree: what the registry has let pass and the ledger has taken in continues the history, and the
longer history is read as well as the shorter one was.

## Results

* `Registry.upToDate_of_checkChained` — an operation that the registry lets pass is up to date.
* `Biography.Takes.extended` — the step lemma: the history with one more write passes its check.
* `Biography.Written.check` — the run lemma, by induction on the writes.
* `Biography.writes_readable` — **writes keep a history readable**, one by one and in any number.
-/

set_option autoImplicit false

namespace DidRegistry

namespace Biography

/-- An operation is up to date with a history: it follows the latest transaction. -/
def UpToDate (b : Biography) (op : Operation Text) : Prop :=
  ∃ latest, b.latest? = some latest ∧ op.previous = some latest.txid

/-- The ledger takes in a write that changes the subject of a biography: an update, a transfer or a
deactivation that is up to date with the history, in a transaction that suits the subject and is not
earlier than the latest one. -/
structure Takes [Platform] (b : Biography) (r : Entry) : Prop where
  changes : ∃ kind ∈ Registry.chainedKinds, r.operation.kind = Text.ofString kind
  upToDate : b.UpToDate r.operation
  suits : r.check b.variety b.subject = .ok ()
  later : ∀ latest, b.latest? = some latest → r.timestamp.isBefore latest.timestamp = false

/-- Writes that the ledger takes in one after the other, each of them held against the history that the ones
before it have made; `c` is the biography after the last one. -/
inductive Written [Platform] : Biography → List Entry → Biography → Prop where
  | done (b : Biography) : Written b [] b
  | write {b c : Biography} {r : Entry} {rs : List Entry} (first : b.Takes r)
      (others : Written (b.extended [r]) rs c) : Written b (r :: rs) c

end Biography

/-- An operation that the registry lets pass is up to date. -/
theorem Registry.upToDate_of_checkChained [Platform] {b : Biography} {subject : Text} {kind : String}
    {op : Operation Text} (h : checkChained subject kind op.toValues b = .ok ()) : b.UpToDate op := by
  unfold checkChained at h
  split at h
  · cases h
  · rename_i latest hl
    split at h
    · cases h
    · rename_i hp
      obtain ⟨txid, ht, hs⟩ := Option.map_eq_some_iff.mp (not_not.mp hp)
      cases hs
      exact ⟨latest, hl, ht⟩

namespace Biography

variable {b c : Biography} {r : Entry} {rs : List Entry}

theorem Takes.continues [Platform] (h : b.Takes r) : Continues b.entries [r] := by
  obtain ⟨latest, hl, hp⟩ := h.upToDate
  intro x hx y hy
  cases hy
  obtain rfl : latest = x := Option.some.inj (hl.symm.trans hx)
  refine ⟨h.later latest hl, fun previous hr => ?_⟩
  exact (Option.some.inj (hp.symm.trans hr)).symm

/-- **The history with one more write passes its check.** -/
theorem Takes.extended [Platform] (h : b.Takes r) (hc : b.check = .ok ()) : (b.extended [r]).check = .ok () :=
  (check_extended_iff hc).mpr ⟨isHistory_singleton.mpr h.suits, h.continues⟩

theorem latest?_extended (b : Biography) (r : Entry) : (b.extended [r]).latest? = some r :=
  List.getLast?_concat ..

theorem status_extended (b : Biography) (r : Entry) :
    (b.extended [r]).status = .ended ↔ r.operation.kind = Text.ofString b.variety.terminalKind := by
  rw [show (b.extended [r]).status = _ from impliedStatus_concat b.entries r]
  split <;> simp_all

theorem Written.entries_eq [Platform] (h : Written b rs c) :
    c.variety = b.variety ∧ c.subject = b.subject ∧ c.entries = b.entries ++ rs := by
  induction h with
  | done b => exact ⟨rfl, rfl, (List.append_nil _).symm⟩
  | write first others ih =>
    obtain ⟨hv, hs, he⟩ := ih
    exact ⟨hv, hs, he.trans (List.append_assoc ..)⟩

/-- **Writes keep what passes its check so**, by induction on the writes. -/
theorem Written.check [Platform] (h : Written b rs c) (hc : b.check = .ok ()) : c.check = .ok () := by
  induction h with
  | done b => exact hc
  | write first others ih => exact ih (first.extended hc)

theorem Written.status_eq [Platform] (h : Written b rs c) (hr : rs ≠ []) :
    c.status = impliedStatus c.variety c.entries := by
  induction h with
  | done b => exact absurd rfl hr
  | write first others ih =>
    cases others with
    | done => rfl
    | write second others => exact ih (List.cons_ne_nil _ _)

/-- **Writes keep a history readable.**  An operation that the registry lets pass is up to date with the
history.  The history with a write that was up to date passes its check, the write is its latest
transaction, and the DID is deactivated exactly when that is what the write does.  So it is after any number
of writes: what they make is the history of the same DID with all of them at its end. -/
theorem writes_readable [Platform] {b : Biography} (hv : b.variety = .did) (hc : b.check = .ok ()) :
    (∀ subject kind (op : Operation Text),
        Registry.checkChained subject kind op.toValues b = .ok () → b.UpToDate op) ∧
      (∀ r, b.Takes r →
        (b.extended [r]).check = .ok () ∧ (b.extended [r]).latest? = some r ∧
          ((b.extended [r]).status = .ended ↔ r.operation.kind = Text.ofString "deactivate")) ∧
      ∀ rs c, Written b rs c →
        c.check = .ok () ∧ c.subject = b.subject ∧ c.entries = b.entries ++ rs ∧
          (rs ≠ [] → c.status = impliedStatus .did c.entries) := by
  refine ⟨fun _ _ _ h => Registry.upToDate_of_checkChained h, fun r h => ?_, fun rs c h => ?_⟩
  · refine ⟨h.extended hc, latest?_extended b r, ?_⟩
    rw [status_extended, hv]
    rfl
  · obtain ⟨hcv, hs, he⟩ := h.entries_eq
    refine ⟨h.check hc, hs, he, fun hr => ?_⟩
    rw [h.status_eq hr, hcv, hv]

/-- A write that follows the transaction which created the DID. -/
def deactivation : Entry :=
  { Entry.deactivated with
    operation := { Entry.deactivated.operation with previous := some Entry.created.txid } }

section

attribute [local instance] Platform.usual

theorem writes_readable_deactivation :
    (mk .did (.str "did:example:123") .valid [.created]).check = .ok () ∧
      (mk .did (.str "did:example:123") .valid [.created]).Takes deactivation ∧
      ((mk .did (.str "did:example:123") .valid [.created]).extended [deactivation]).check = .ok () ∧
      ((mk .did (.str "did:example:123") .valid [.created]).extended [deactivation]).status = .ended := by
  have hc : (mk .did (.str "did:example:123") .valid [.created]).check = .ok () :=
    toOption_eq_some.mp (by decide +kernel)
  have ht : (mk .did (.str "did:example:123") .valid [.created]).Takes deactivation := {
    changes := ⟨"deactivate", by decide, rfl⟩
    upToDate := ⟨.created, rfl, rfl⟩
    suits := toOption_eq_some.mp (by decide +kernel)
    later := by
      intro latest hl
      cases hl
      decide +kernel }
  obtain ⟨hcheck, -, hstatus⟩ := (writes_readable rfl hc).2.1 deactivation ht
  exact ⟨hc, ht, hcheck, hstatus.mpr rfl⟩

end

end Biography

end DidRegistry
