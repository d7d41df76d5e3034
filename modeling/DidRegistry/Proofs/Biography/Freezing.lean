import DidRegistry.Platform.Usual
import DidRegistry.Proofs.Biography.Construction
import DidRegistry.Proofs.Biography.Extension

/-!
# Entries are taken, and then no more

A draft is fed and finished in any order, by callers who may not know of each other.  What may happen to it is
small: an entry is taken at the end, or refused and the draft left as it is, or the list is closed for good.
So the entries of a draft are those that it has taken, and once it was finished, well or not, it never changes
again: what comes later comes too late, and whoever finishes it then gets the same as everybody else.

## Results

* `BiographyDraft.takes` — the step lemma: what one act does to a draft.
* `BiographyDraft.entries_after`, `BiographyDraft.isClosed_after` — the run lemmas, by induction on the acts.
* `BiographyDraft.isFrozen_of_isClosed` — a draft that is closed never changes.
* `BiographyDraft.append_then_freeze` — **a draft holds what it has taken, in order, until it is finished, and
  is frozen from then on**.
-/

set_option autoImplicit false

namespace DidRegistry.BiographyDraft

/-- The entry that was taken, if one was. -/
def Result.taken? : Result → Option Entry
  | .taken r => some r
  | _ => none

/-- Whether the draft is finished. -/
def Act.isFinish : Act → Bool
  | .finish _ => true
  | _ => false

/-- The act offers an entry to the draft of a subject: the entry itself, or a value that it is read from. -/
inductive Act.Offers (subject : Json) (r : Entry) : Act → Prop where
  | entry : Offers subject r (.append r)
  | value {v : Json} (read : Entry.ofJson v subject = .ok r) : Offers subject r (.appendJson v)

/-- The draft with its list closed. -/
def frozen (draft : BiographyDraft) : BiographyDraft := { draft with isClosed := true }

/-- The draft after acts one after the other. -/
def after [Platform] (draft : BiographyDraft) (acts : List Act) : BiographyDraft :=
  acts.foldl (fun d act => (d.take act).2) draft

variable {draft next : BiographyDraft} {act : Act} {acts : List Act} {result : Result}

/-! ## One act -/

/-- What an act may come to, and the draft that it leaves. -/
inductive Takes [Platform] (draft : BiographyDraft) : Act → Result → BiographyDraft → Prop where
  | taken {act : Act} {r : Entry} (opened : draft.isClosed = false) (offered : act.Offers draft.subject r) :
      Takes draft act (.taken r) (draft.extended [r])
  | late {act : Act} {r : Entry} (closed : draft.isClosed = true) (offered : act.Offers draft.subject r) :
      Takes draft act (.refused .closed) draft
  | unread {v : Json} {e : EntryError} (fault : Entry.ofJson v draft.subject = .error e) :
      Takes draft (.appendJson v) (.refused (.entry e)) draft
  | finished {status : Option Status} (formed : (draft.biography status).check = .ok ()) :
      Takes draft (.finish status) (.finished (draft.biography status)) draft.frozen
  | malformed {status : Option Status} {e : BiographyError}
      (fault : (draft.biography status).check = .error e) :
      Takes draft (.finish status) (.malformed e) draft.frozen

/-- An entry that is offered is taken by an open draft and refused by a closed one. -/
theorem take_of_offers [Platform] {r : Entry} (h : act.Offers draft.subject r) :
    draft.take act =
      if draft.isClosed then (.refused .closed, draft) else (.taken r, draft.extended [r]) := by
  cases h with
  | entry =>
    cases hclosed : draft.isClosed <;> simp [take, append, extended, hclosed]
  | value read =>
    cases hclosed : draft.isClosed <;> simp [take, appendJson, read, append, extended, hclosed, Except.map]

/-- **What one act does to a draft.** -/
theorem takes [Platform] (draft : BiographyDraft) (act : Act) :
    draft.Takes act (draft.take act).1 (draft.take act).2 := by
  have hoffered : ∀ r, act.Offers draft.subject r →
      draft.Takes act (draft.take act).1 (draft.take act).2 := by
    intro r h
    rw [take_of_offers h]
    cases hclosed : draft.isClosed with
    | true => exact .late hclosed h
    | false => exact .taken hclosed h
  cases act with
  | append r => exact hoffered r .entry
  | appendJson v =>
    cases hv : Entry.ofJson v draft.subject with
    | error e =>
      simp only [take, appendJson, hv]
      exact .unread hv
    | ok r => exact hoffered r (.value hv)
  | finish status =>
    have hfinish : draft.finish status =
        ((draft.biography status).check.map fun _ => draft.biography status, draft.frozen) := rfl
    simp only [take, hfinish]
    cases hc : (draft.biography status).check with
    | error e => exact .malformed hc
    | ok u => exact .finished hc

theorem Takes.subject_eq [Platform] (h : draft.Takes act result next) : next.subject = draft.subject := by
  cases h <;> rfl

theorem Takes.entries_eq [Platform] (h : draft.Takes act result next) :
    next.entries = draft.entries ++ result.taken?.toList := by
  cases h <;> simp [extended, frozen, Result.taken?]

theorem Takes.isClosed_eq [Platform] (h : draft.Takes act result next) :
    next.isClosed = (draft.isClosed || act.isFinish) := by
  cases h with
  | taken _ offered | late _ offered => cases offered <;> simp [extended, Act.isFinish]
  | unread => simp [Act.isFinish]
  | finished | malformed => simp [frozen, Act.isFinish]

theorem Takes.eq_frozen [Platform] {status : Option Status} (h : draft.Takes (.finish status) result next) :
    next = draft.frozen := by
  cases h with
  | taken _ offered | late _ offered => cases offered
  | finished | malformed => rfl

theorem Takes.eq_of_isClosed [Platform] (h : draft.Takes act result next) (hclosed : draft.isClosed = true) :
    next = draft := by
  have hfrozen : draft.frozen = draft := by
    obtain ⟨variety, subject, entries, isClosed⟩ := draft
    cases hclosed
    rfl
  cases h with
  | taken opened => simp [hclosed] at opened
  | late | unread => rfl
  | finished | malformed => exact hfrozen

theorem take_taken_iff [Platform] {r : Entry} :
    (draft.take act).1 = .taken r ↔ act.Offers draft.subject r ∧ draft.isClosed = false := by
  constructor
  · intro htaken
    have htakes := draft.takes act
    rw [htaken] at htakes
    generalize (draft.take act).2 = next at htakes
    cases htakes with
    | taken opened offered => exact ⟨offered, opened⟩
  · rintro ⟨hoffers, hopen⟩
    rw [take_of_offers hoffers, if_neg (by simp [hopen])]

theorem take_of_refused [Platform] {e : AppendError} (h : (draft.take act).1 = .refused e) :
    (draft.take act).2 = draft := by
  have htakes := draft.takes act
  rw [h] at htakes
  generalize (draft.take act).2 = next at htakes ⊢
  cases htakes <;> rfl

theorem entries_of_take_finished [Platform] {b : Biography} (h : (draft.take act).1 = .finished b) :
    b.entries = draft.entries := by
  have htakes := draft.takes act
  rw [h] at htakes
  generalize (draft.take act).2 = next at htakes
  cases htakes
  rfl

/-! ## Acts one after the other -/

theorem after_append [Platform] (draft : BiographyDraft) (acts more : List Act) :
    draft.after (acts ++ more) = (draft.after acts).after more := List.foldl_append

theorem subject_after [Platform] (draft : BiographyDraft) (acts : List Act) :
    (draft.after acts).subject = draft.subject := by
  induction acts generalizing draft with
  | nil => rfl
  | cons act acts ih => exact (ih _).trans (draft.takes act).subject_eq

/-- **The entries of a draft are those that it has taken**, behind those that it had. -/
theorem entries_after [Platform] (draft : BiographyDraft) (acts : List Act) :
    (draft.after acts).entries = draft.entries ++ (draft.results acts).filterMap Result.taken? := by
  induction acts generalizing draft with
  | nil => simp [after, results]
  | cons act acts ih =>
    have hstep := (draft.takes act).entries_eq
    have hrest := ih (draft.take act).2
    simp only [after, List.foldl_cons] at hrest ⊢
    rw [hrest, hstep, results]
    cases hr : (draft.take act).1.taken? <;> simp [hr]

/-- A draft is closed when it was, or when it is finished on the way. -/
theorem isClosed_after [Platform] (draft : BiographyDraft) (acts : List Act) :
    (draft.after acts).isClosed = (draft.isClosed || acts.any Act.isFinish) := by
  induction acts generalizing draft with
  | nil => simp [after]
  | cons act acts ih =>
    have hstep := (draft.takes act).isClosed_eq
    have hrest := ih (draft.take act).2
    simp only [after, List.foldl_cons] at hrest ⊢
    rw [hrest, hstep, List.any_cons, Bool.or_assoc]

theorem after_of_isClosed [Platform] (hclosed : draft.isClosed = true) (acts : List Act) :
    draft.after acts = draft := by
  induction acts with
  | nil => rfl
  | cons act acts ih =>
    have hstep := (draft.takes act).eq_of_isClosed hclosed
    simp only [after, List.foldl_cons] at ih ⊢
    rw [hstep, ih]

/-- What is finished is frozen, whatever is done with it later. -/
theorem after_finish_cons [Platform] (draft : BiographyDraft) (status : Option Status) (more : List Act) :
    draft.after (.finish status :: more) = draft.frozen := by
  have hnext := (draft.takes (.finish status)).eq_frozen
  have hrest : draft.frozen.after more = draft.frozen := after_of_isClosed rfl more
  simp only [after, List.foldl_cons] at hrest ⊢
  rw [hnext, hrest]

theorem take_finish_frozen [Platform] (draft : BiographyDraft) (status : Option Status) :
    (draft.frozen.take (.finish status)).1 = (draft.take (.finish status)).1 := by
  have hsame : draft.frozen.finish status = draft.finish status := rfl
  simp only [take, hsame]

/-- A draft is frozen: nothing that is done with it changes it, an entry that is offered comes at the wrong
time, and it can be finished again and again with the same result. -/
structure IsFrozen [Platform] (draft : BiographyDraft) : Prop where
  unchanged : ∀ acts, draft.after acts = draft
  late : ∀ act r, act.Offers draft.subject r →
    ∃ e, (draft.take act).1 = .refused e ∧ e.report.kind = .state
  finish : ∀ acts status,
    ((draft.after acts).take (.finish status)).1 = (draft.take (.finish status)).1

theorem isFrozen_of_isClosed [Platform] (hclosed : draft.isClosed = true) : draft.IsFrozen where
  unchanged := after_of_isClosed hclosed
  late act r hoffers := ⟨.closed, by rw [take_of_offers hoffers, if_pos hclosed], rfl⟩
  finish acts status := by rw [after_of_isClosed hclosed]

/-- **A draft holds what it has taken, in order, until it is finished, and is frozen from then on**, whatever
is done with it.  What is offered is taken as long as the draft was not finished, what is refused leaves the
draft as it is, and a biography that is handed out has the entries of the draft.  It does not matter how the
draft was finished for the first time; finishing it again with the same status comes to the same. -/
theorem append_then_freeze [Platform] (variety : Variety) (subject : Json) (acts : List Act) :
    ((empty variety subject).after acts).entries =
        ((empty variety subject).results acts).filterMap Result.taken? ∧
      (∀ act r, (((empty variety subject).after acts).take act).1 = .taken r ↔
        act.Offers subject r ∧ acts.any Act.isFinish = false) ∧
      (∀ act e, (((empty variety subject).after acts).take act).1 = .refused e →
        (((empty variety subject).after acts).take act).2 = (empty variety subject).after acts) ∧
      (∀ act b, (((empty variety subject).after acts).take act).1 = .finished b →
        b.entries = ((empty variety subject).after acts).entries) ∧
      (acts.any Act.isFinish = true → ((empty variety subject).after acts).IsFrozen) ∧
      ∀ status more,
        (((empty variety subject).after (acts ++ .finish status :: more)).take (.finish status)).1 =
          (((empty variety subject).after acts).take (.finish status)).1 := by
  have hsubject : ((empty variety subject).after acts).subject = subject := subject_after _ acts
  have hclosed : ((empty variety subject).after acts).isClosed = acts.any Act.isFinish := by
    simp [isClosed_after, empty]
  refine ⟨entries_after _ acts, ?_, fun _ _ => take_of_refused, fun _ _ => entries_of_take_finished, ?_, ?_⟩
  · intro act r
    rw [take_taken_iff, hsubject, hclosed]
  · intro hfinish
    apply isFrozen_of_isClosed
    rw [hclosed, hfinish]
  · intro status more
    rw [after_append, after_finish_cons]
    exact take_finish_frozen _ status

/-- A draft is finished with a status that does not fit, and an entry arrives afterwards. -/
def premature : List Act := [.append .created, .finish (some .notFound), .append .renewed]

section

attribute [local instance] Platform.usual

/-- The draft keeps the entry that came in time, and it can still be finished with a status that fits. -/
theorem append_then_freeze_premature :
    premature.any Act.isFinish = true ∧
      ((empty .did (.str "did:example:123")).after premature).entries = [.created] ∧
      ((empty .did (.str "did:example:123")).after premature).IsFrozen ∧
      (((empty .did (.str "did:example:123")).after premature).take (.finish none)).1 =
        .finished ⟨.did, .str "did:example:123", .valid, [.created]⟩ := by
  obtain ⟨hentries, -, -, -, hfrozen, -⟩ := append_then_freeze .did (.str "did:example:123") premature
  have htaken : ((empty .did (.str "did:example:123")).results premature).filterMap Result.taken? =
      [.created] := by decide +kernel
  have hchecked : (Biography.mk .did (.str "did:example:123") .valid [.created]).check = .ok () :=
    toOption_eq_some.mp (by decide +kernel)
  refine ⟨rfl, hentries.trans htaken, hfrozen rfl, take_finish_eq.mpr ⟨?_, ?_⟩⟩
  · decide +kernel
  · exact hchecked

end

end DidRegistry.BiographyDraft
