import DidRegistry.Proofs.Ledger.Transcript
import Mathlib.Logic.Function.Basic

/-!
# Dialogues side by side

Several dialogues may be under way at once, as tasks that share the hash of the last submission.  They take
turns: a task goes on until it has to wait for a reply or sleeps, and only then may another one go on.  What
they keep in mind between two waits is therefore done in one piece, and what is done before and after a wait
is not.

## Results

* `Interleaving.run_fits` — what a task does in an interleaving is what its dialogue does, whatever the others
  do in between.
* `Interleaving.run_recollects` — the hash that a task recalls is the one that was kept last, by whichever
  task.
* `Interleaving.Run.follow` — a task may go along any track that recollects, while the others stand still.
* `Interleaving.run_of_course` — a dialogue that is run by itself is run so among tasks that stand still.
-/

set_option autoImplicit false

namespace DidRegistry

/-- Something that a task does, or that comes back to it. -/
inductive Act where
  /-- A call goes out. -/
  | called (c : Call)
  | answered (c : Call) (reply : c.Reply)
  | fellAsleep (seconds : Number)
  | woke (seconds : Number)
  /-- It looks at the hash that is kept. -/
  | recalled (last : Option Json)
  | kept (hash : Json)

/-- What was asked for. -/
def Act.ask : Act → Ask
  | .called c | .answered c _ => .call c
  | .fellAsleep s | .woke s => .sleep s
  | .recalled _ => .lastHash
  | .kept hash => .remember hash

/-- What a transcript tells of an act. -/
def Act.happening? : Act → Option Happening
  | .answered c reply => some (.answered c reply)
  | .woke s => some (.slept s)
  | _ => none

namespace Dialogue

variable {α β : Type}

/-- What a dialogue does before it has to wait, where it stands then, and which hash is kept. -/
structure Leg (α : Type) where
  acts : List Act
  stand : Dialogue α
  last : Option Json

/-- Goes on until there is something to wait for. -/
def advance : Dialogue α → Option Json → Leg α
  | .done a, last => ⟨[], .done a, last⟩
  | .ask (.call c) next, last => ⟨[.called c], .ask (.call c) next, last⟩
  | .ask (.sleep s) next, last => ⟨[.fellAsleep s], .ask (.sleep s) next, last⟩
  | .ask .lastHash next, last =>
    let leg := advance (next last) last
    { leg with acts := .recalled last :: leg.acts }
  | .ask (.remember hash) next, _ =>
    let leg := advance (next ()) (some hash)
    { leg with acts := .kept hash :: leg.acts }

/-- A dialogue may go along these acts and stand waiting at the second one then, or be over; any reply may
come to a call, and any hash may be the kept one. -/
inductive Track : Dialogue α → List Act → Dialogue α → Prop where
  | done {a : α} : Track (.done a) [] (.done a)
  | waiting {c : Call} {next : c.Reply → Dialogue α} :
      Track (.ask (.call c) next) [.called c] (.ask (.call c) next)
  | asleep {s : Number} {next : Unit → Dialogue α} :
      Track (.ask (.sleep s) next) [.fellAsleep s] (.ask (.sleep s) next)
  | answered {c : Call} {next : c.Reply → Dialogue α} {reply : c.Reply} {acts : List Act}
      {stand : Dialogue α} :
      Track (next reply) acts stand →
      Track (.ask (.call c) next) (.called c :: .answered c reply :: acts) stand
  | woke {s : Number} {next : Unit → Dialogue α} {acts : List Act} {stand : Dialogue α} :
      Track (next ()) acts stand → Track (.ask (.sleep s) next) (.fellAsleep s :: .woke s :: acts) stand
  | recalled {next : Option Json → Dialogue α} (last : Option Json) {acts : List Act} {stand : Dialogue α} :
      Track (next last) acts stand → Track (.ask .lastHash next) (.recalled last :: acts) stand
  | kept {hash : Json} {next : Unit → Dialogue α} {acts : List Act} {stand : Dialogue α} :
      Track (next ()) acts stand → Track (.ask (.remember hash) next) (.kept hash :: acts) stand

theorem track_advance (d : Dialogue α) (last : Option Json) :
    d.Track (d.advance last).acts (d.advance last).stand := by
  induction d generalizing last with
  | done a => exact .done
  | ask a next ih =>
    cases a with
    | call c => exact .waiting
    | sleep s => exact .asleep
    | lastHash => exact .recalled last (ih last last)
    | remember hash => exact .kept (ih () (some hash))

theorem track_done {a : α} {acts : List Act} {stand : Dialogue α} (h : (Dialogue.done a).Track acts stand) :
    acts = [] ∧ stand = .done a := by
  cases h
  exact ⟨rfl, rfl⟩

/-- A dialogue that goes on after another one: the first one has come to its end, or it stands where it
waits. -/
theorem track_bind {d : Dialogue α} {f : α → Dialogue β} {acts : List Act} {stand : Dialogue β}
    (h : (d.bind f).Track acts stand) :
    (∃ a acts₁ acts₂, acts = acts₁ ++ acts₂ ∧ d.Track acts₁ (.done a) ∧ (f a).Track acts₂ stand) ∨
      ((∃ stand', d.Track acts stand') ∧ ∀ b, stand ≠ .done b) := by
  induction d generalizing acts with
  | done a => exact .inl ⟨a, [], acts, rfl, .done, h⟩
  | ask a next ih =>
    cases a with
    | call c =>
      cases h with
      | waiting => exact .inr ⟨⟨_, .waiting⟩, nofun⟩
      | answered h =>
        rcases ih _ h with ⟨a, acts₁, acts₂, rfl, h₁, h₂⟩ | ⟨⟨stand', h₁⟩, hn⟩
        · exact .inl ⟨a, _, acts₂, rfl, .answered h₁, h₂⟩
        · exact .inr ⟨⟨stand', .answered h₁⟩, hn⟩
    | sleep s =>
      cases h with
      | asleep => exact .inr ⟨⟨_, .asleep⟩, nofun⟩
      | woke h =>
        rcases ih _ h with ⟨a, acts₁, acts₂, rfl, h₁, h₂⟩ | ⟨⟨stand', h₁⟩, hn⟩
        · exact .inl ⟨a, _, acts₂, rfl, .woke h₁, h₂⟩
        · exact .inr ⟨⟨stand', .woke h₁⟩, hn⟩
    | lastHash =>
      cases h with
      | recalled last h =>
        rcases ih _ h with ⟨a, acts₁, acts₂, rfl, h₁, h₂⟩ | ⟨⟨stand', h₁⟩, hn⟩
        · exact .inl ⟨a, _, acts₂, rfl, .recalled last h₁, h₂⟩
        · exact .inr ⟨⟨stand', .recalled last h₁⟩, hn⟩
    | remember hash =>
      cases h with
      | kept h =>
        rcases ih _ h with ⟨a, acts₁, acts₂, rfl, h₁, h₂⟩ | ⟨⟨stand', h₁⟩, hn⟩
        · exact .inl ⟨a, _, acts₂, rfl, .kept h₁, h₂⟩
        · exact .inr ⟨⟨stand', .kept h₁⟩, hn⟩

theorem track_call_bind {c : Call} {f : c.Reply → Dialogue β} {acts : List Act} {stand : Dialogue β}
    (h : ((Dialogue.call c).bind f).Track acts stand) :
    (∃ reply rest, acts = .called c :: .answered c reply :: rest ∧ (f reply).Track rest stand) ∨
      (acts = [.called c] ∧ ∀ b, stand ≠ .done b) := by
  have h : (Dialogue.ask (.call c) f).Track acts stand := h
  cases h with
  | waiting => exact .inr ⟨rfl, nofun⟩
  | answered h => exact .inl ⟨_, _, rfl, h⟩

theorem Asks.track {P : Ask → Prop} {d stand : Dialogue α} {acts : List Act} (hd : Asks P d)
    (h : d.Track acts stand) : ∀ x ∈ acts, P x.ask := by
  induction h with
  | done =>
    intro x hx
    cases hx
  | waiting | asleep =>
    cases hd with
    | ask ha _ =>
      intro x hx
      rcases List.mem_singleton.mp hx with rfl
      exact ha
  | answered _ ih | woke _ ih =>
    cases hd with
    | ask ha hn =>
      intro x hx
      rcases List.mem_cons.mp hx with rfl | hx
      · exact ha
      rcases List.mem_cons.mp hx with rfl | hx
      · exact ha
      · exact ih (hn _) x hx
  | recalled _ _ ih | kept _ ih =>
    cases hd with
    | ask ha hn =>
      intro x hx
      rcases List.mem_cons.mp hx with rfl | hx
      · exact ha
      · exact ih (hn _) x hx

end Dialogue

/-! ## What is kept in mind -/

/-- The hash that is kept after these acts. -/
def lastAfter : Option Json → List Act → Option Json
  | last, [] => last
  | _, .kept hash :: acts => lastAfter (some hash) acts
  | last, _ :: acts => lastAfter last acts

/-- Whatever is recalled in these acts is what is kept then. -/
def Recollects : Option Json → List Act → Prop
  | _, [] => True
  | _, .kept hash :: acts => Recollects (some hash) acts
  | last, .recalled given :: acts => given = last ∧ Recollects last acts
  | last, _ :: acts => Recollects last acts

theorem lastAfter_append (last : Option Json) (acts acts' : List Act) :
    lastAfter last (acts ++ acts') = lastAfter (lastAfter last acts) acts' := by
  induction acts generalizing last with
  | nil => rfl
  | cons a acts ih => cases a <;> exact ih _

theorem recollects_append {last : Option Json} {acts acts' : List Act} :
    Recollects last (acts ++ acts') ↔ Recollects last acts ∧ Recollects (lastAfter last acts) acts' := by
  induction acts generalizing last with
  | nil => simp [Recollects, lastAfter]
  | cons a acts ih =>
    cases a with
    | recalled given => exact (and_congr_right fun _ => ih).trans and_assoc.symm
    | _ => exact ih

theorem lastAfter_cases (last : Option Json) (acts : List Act) :
    ((∀ hash, .kept hash ∉ acts) ∧ lastAfter last acts = last) ∨
      ∃ hash, .kept hash ∈ acts ∧ lastAfter last acts = some hash := by
  induction acts generalizing last with
  | nil => exact .inl ⟨fun _ => List.not_mem_nil, rfl⟩
  | cons a acts ih =>
    cases a with
    | kept hash =>
      rcases ih (some hash) with ⟨-, he⟩ | ⟨other, hm, he⟩
      · exact .inr ⟨hash, List.mem_cons_self, he⟩
      · exact .inr ⟨other, List.mem_cons_of_mem _ hm, he⟩
    | _ =>
      rcases ih last with ⟨hn, he⟩ | ⟨other, hm, he⟩
      · refine .inl ⟨fun hash hm => ?_, he⟩
        rcases List.mem_cons.mp hm with h | h
        · cases h
        · exact hn hash h
      · exact .inr ⟨other, List.mem_cons_of_mem _ hm, he⟩

theorem Dialogue.advance_recollects {α : Type} (d : Dialogue α) (last : Option Json) :
    Recollects last (d.advance last).acts ∧ (d.advance last).last = lastAfter last (d.advance last).acts := by
  induction d generalizing last with
  | done a => exact ⟨trivial, rfl⟩
  | ask a next ih =>
    cases a with
    | call c => exact ⟨trivial, rfl⟩
    | sleep s => exact ⟨trivial, rfl⟩
    | lastHash => exact ⟨⟨rfl, (ih last last).1⟩, (ih last last).2⟩
    | remember hash => exact ih () (some hash)

/-! ## Interleavings -/

namespace Interleaving

variable {ι α : Type} [DecidableEq ι]

/-- Where a task is. -/
inductive Stage (α : Type) where
  /-- It has not begun. -/
  | new (d : Dialogue α)
  /-- It waits, or is over. -/
  | stands (d : Dialogue α)
  /-- It was cancelled while it waited. -/
  | cancelled

/-- The tasks and the hash that they share. -/
structure World (ι α : Type) where
  last : Option Json
  stage : ι → Stage α

/-- No task has begun. -/
def World.start (tasks : ι → Dialogue α) (last : Option Json) : World ι α := ⟨last, fun i => .new (tasks i)⟩

/-- A task has gone on. -/
def World.move (w : World ι α) (i : ι) (leg : Dialogue.Leg α) : World ι α :=
  ⟨leg.last, Function.update w.stage i (.stands leg.stand)⟩

/-- How a task comes to go on: it begins, or what it waits for comes. -/
inductive Resumes : Stage α → List Act → Dialogue α → Prop where
  | begin {d : Dialogue α} : Resumes (.new d) [] d
  | reply {c : Call} {next : c.Reply → Dialogue α} (reply : c.Reply) :
      Resumes (.stands (.ask (.call c) next)) [.answered c reply] (next reply)
  | wake {s : Number} {next : Unit → Dialogue α} :
      Resumes (.stands (.ask (.sleep s) next)) [.woke s] (next ())

theorem Resumes.recollects {stage : Stage α} {acts : List Act} {d : Dialogue α} (h : Resumes stage acts d)
    (last : Option Json) : Recollects last acts ∧ lastAfter last acts = last := by
  cases h <;> exact ⟨trivial, rfl⟩

/-- One task goes on until it waits again, or is cancelled. -/
inductive Step : World ι α → List (ι × Act) → World ι α → Prop where
  | go {w : World ι α} {i : ι} {acts : List Act} {d : Dialogue α} :
      Resumes (w.stage i) acts d →
      Step w ((acts ++ (d.advance w.last).acts).map (i, ·)) (w.move i (d.advance w.last))
  | cancel {w : World ι α} {i : ι} {d : Dialogue α} :
      w.stage i = .stands d → Step w [] { w with stage := Function.update w.stage i .cancelled }

/-- Any number of steps, with what was done in them, by whom and in which order. -/
inductive Run (w₀ : World ι α) : List (ι × Act) → World ι α → Prop where
  | start : Run w₀ [] w₀
  | step {log acts : List (ι × Act)} {w w' : World ι α} :
      Run w₀ log w → Step w acts w' → Run w₀ (log ++ acts) w'

/-- What one task did. -/
def actsOf (i : ι) (log : List (ι × Act)) : List Act :=
  log.filterMap fun x => if x.1 = i then some x.2 else none

theorem actsOf_append (i : ι) (log log' : List (ι × Act)) :
    actsOf i (log ++ log') = actsOf i log ++ actsOf i log' := List.filterMap_append

theorem actsOf_cons_self (i : ι) (a : Act) (log : List (ι × Act)) :
    actsOf i ((i, a) :: log) = a :: actsOf i log := by
  simp [actsOf]

theorem actsOf_map_self (i : ι) (acts : List Act) : actsOf i (acts.map (i, ·)) = acts := by
  induction acts with
  | nil => rfl
  | cons a acts ih => rw [List.map_cons, actsOf_cons_self, ih]

theorem actsOf_map_other {i k : ι} (h : i ≠ k) (acts : List Act) : actsOf k (acts.map (i, ·)) = [] := by
  simp only [actsOf, List.filterMap_eq_nil_iff, List.forall_mem_map, if_neg h, implies_true]

theorem mem_actsOf {i : ι} {a : Act} {log : List (ι × Act)} : a ∈ actsOf i log ↔ (i, a) ∈ log := by
  simp only [actsOf, List.mem_filterMap]
  constructor
  · rintro ⟨⟨k, b⟩, hm, he⟩
    split at he
    · rename_i hk
      cases he
      rwa [← hk]
    · cases he
  · intro hm
    exact ⟨(i, a), hm, by simp⟩

theorem actsOf_sublist (i : ι) (log : List (ι × Act)) : List.Sublist (actsOf i log) (log.map Prod.snd) := by
  induction log with
  | nil => exact List.Sublist.slnil
  | cons x log ih =>
    by_cases hx : x.1 = i
    · rw [show actsOf i (x :: log) = x.2 :: actsOf i log by simp [actsOf, hx]]
      exact ih.cons_cons x.2
    · rw [show actsOf i (x :: log) = actsOf i log by simp [actsOf, hx]]
      exact ih.cons x.2

/-- An act of a task stands in the log where it stands among the acts of the task. -/
theorem exists_split {i : ι} {acts acts' : List Act} {a : Act} {log : List (ι × Act)}
    (h : actsOf i log = acts ++ a :: acts') :
    ∃ before after, log = before ++ (i, a) :: after ∧ actsOf i before = acts ∧ actsOf i after = acts' := by
  induction log generalizing acts with
  | nil => cases acts <;> cases h
  | cons x log ih =>
    obtain ⟨k, b⟩ := x
    by_cases hk : k = i
    · subst hk
      rw [actsOf_cons_self] at h
      cases acts with
      | nil =>
        cases h
        exact ⟨[], log, rfl, rfl, rfl⟩
      | cons c acts =>
        obtain ⟨rfl, hlog⟩ := List.cons.inj h
        obtain ⟨before, after, rfl, hbefore, hafter⟩ := ih hlog
        exact ⟨(k, b) :: before, after, rfl, by rw [actsOf_cons_self, hbefore], hafter⟩
    · have hskip : ∀ l, actsOf i ((k, b) :: l) = actsOf i l := fun l => by simp [actsOf, hk]
      rw [hskip] at h
      obtain ⟨before, after, rfl, hbefore, hafter⟩ := ih h
      exact ⟨(k, b) :: before, after, rfl, by rw [hskip, hbefore], hafter⟩

/-! ## A task among the others -/

/-- A stage of a task that has done these acts. -/
def Stage.Fits (d : Dialogue α) (acts : List Act) : Stage α → Prop
  | .new d' => d' = d ∧ acts = []
  | .stands stand => d.Track acts stand
  | .cancelled => ∃ stand, d.Track acts stand

/-- A track goes on when what it waits for comes. -/
theorem track_resume {d stand d' stand' : Dialogue α} {acts resumed acts' : List Act}
    (h : d.Track acts stand) (hr : Resumes (.stands stand) resumed d') (h' : d'.Track acts' stand') :
    d.Track (acts ++ (resumed ++ acts')) stand' := by
  induction h with
  | done => cases hr
  | waiting =>
    cases hr
    exact .answered h'
  | asleep =>
    cases hr
    exact .woke h'
  | answered _ ih => exact .answered (ih hr)
  | woke _ ih => exact .woke (ih hr)
  | recalled last _ ih => exact .recalled last (ih hr)
  | kept _ ih => exact .kept (ih hr)

/-- Going on fits what was done before. -/
theorem Stage.Fits.go {d d' : Dialogue α} {acts resumed : List Act} {stage : Stage α}
    (h : stage.Fits d acts) (hr : Resumes stage resumed d') (last : Option Json) :
    d.Track (acts ++ (resumed ++ (d'.advance last).acts)) (d'.advance last).stand := by
  cases hr with
  | begin =>
    obtain ⟨rfl, rfl⟩ := h
    exact Dialogue.track_advance _ last
  | reply r => exact track_resume h (.reply r) (Dialogue.track_advance _ last)
  | wake => exact track_resume h .wake (Dialogue.track_advance _ last)

/-- **What a task does in an interleaving is what its dialogue does.** -/
theorem run_fits {tasks : ι → Dialogue α} {last : Option Json} {log : List (ι × Act)} {w : World ι α}
    (h : Run (.start tasks last) log w) (i : ι) : (w.stage i).Fits (tasks i) (actsOf i log) := by
  induction h with
  | start => exact ⟨rfl, rfl⟩
  | step _ hs ih =>
    rw [actsOf_append]
    cases hs with
    | go hr =>
      rename_i k acts d
      by_cases hk : k = i
      · subst hk
        rw [actsOf_map_self]
        simp only [World.move, Function.update_self]
        exact ih.go hr _
      · rw [actsOf_map_other hk, List.append_nil]
        simpa only [World.move, Function.update_of_ne (Ne.symm hk)] using ih
    | cancel hw =>
      rename_i k d
      rw [show actsOf i [] = [] from rfl, List.append_nil]
      by_cases hk : k = i
      · subst hk
        rw [hw] at ih
        simp only [Function.update_self]
        exact ⟨d, ih⟩
      · simpa only [Function.update_of_ne (Ne.symm hk)] using ih

/-- What a task has done is a track of its dialogue, unless it has done nothing. -/
theorem run_track {tasks : ι → Dialogue α} {last : Option Json} {log : List (ι × Act)} {w : World ι α}
    (h : Run (.start tasks last) log w) (i : ι) (hi : actsOf i log ≠ []) :
    ∃ stand, (tasks i).Track (actsOf i log) stand := by
  have hf := run_fits h i
  cases hstage : w.stage i with
  | new d =>
    rw [hstage] at hf
    exact absurd hf.2 hi
  | stands d =>
    rw [hstage] at hf
    exact ⟨d, hf⟩
  | cancelled =>
    rw [hstage] at hf
    exact hf

/-- **The hash that a task recalls is the one that was kept last**, by whichever task. -/
theorem run_recollects {w₀ w : World ι α} {log : List (ι × Act)} (h : Run w₀ log w) :
    Recollects w₀.last (log.map Prod.snd) ∧ w.last = lastAfter w₀.last (log.map Prod.snd) := by
  induction h with
  | start => exact ⟨trivial, rfl⟩
  | @step log _ w _ _ hs ih =>
    obtain ⟨hrec, hlast⟩ := ih
    cases hs with
    | @go k acts d hr =>
      obtain ⟨hleg, hafter⟩ := Dialogue.advance_recollects d w.last
      obtain ⟨hresumed, hsame⟩ := hr.recollects w.last
      have hacts : ((acts ++ (d.advance w.last).acts).map (k, ·)).map Prod.snd =
          acts ++ (d.advance w.last).acts := by
        simp [Function.comp_def]
      rw [List.map_append, hacts, lastAfter_append, lastAfter_append, recollects_append, recollects_append,
        ← hlast, hsame]
      exact ⟨⟨hrec, hresumed, hleg⟩, hafter⟩
    | cancel =>
      rw [List.append_nil]
      exact ⟨hrec, hlast⟩

theorem recalled_eq {w₀ w : World ι α} {before after : List (ι × Act)} {i : ι} {given : Option Json}
    (h : Run w₀ (before ++ (i, .recalled given) :: after) w) :
    given = lastAfter w₀.last (before.map Prod.snd) := by
  have hr := (run_recollects h).1
  rw [List.map_append, recollects_append] at hr
  exact hr.2.1

/-! ## Tasks that are let go on -/

/-- A task that has come to a wait on its way along a track may go the whole track.  The induction is on the
track: what is recalled and kept belongs to the step that is under way, and every reply or wake-up makes a
step of its own. -/
theorem Run.extend {w₀ : World ι α} {i : ι} {d stand : Dialogue α} {acts : List Act}
    (ht : d.Track acts stand) {log : List (ι × Act)} {last : Option Json} {stage : ι → Stage α}
    (hrec : Recollects last acts)
    (h : Run w₀ (log ++ (d.advance last).acts.map (i, ·)) (World.move ⟨last, stage⟩ i (d.advance last))) :
    Run w₀ (log ++ acts.map (i, ·)) ⟨lastAfter last acts, Function.update stage i (.stands stand)⟩ := by
  induction ht generalizing log last with
  | done | waiting | asleep => exact h
  | @answered c next reply acts stand _ ih =>
    have hr : Resumes (Function.update stage i (.stands (.ask (.call c) next)) i) [.answered c reply]
        (next reply) := by
      rw [Function.update_self]
      exact .reply reply
    have hrest : Run w₀ ((log ++ [(i, .called c), (i, .answered c reply)]) ++ acts.map (i, ·))
        ⟨lastAfter last acts, Function.update stage i (.stands stand)⟩ :=
      ih hrec (by simpa [World.move, Dialogue.advance] using h.step (.go hr))
    rwa [List.append_assoc] at hrest
  | @woke s next acts stand _ ih =>
    have hr : Resumes (Function.update stage i (.stands (.ask (.sleep s) next)) i) [.woke s] (next ()) := by
      rw [Function.update_self]
      exact .wake
    have hrest : Run w₀ ((log ++ [(i, .fellAsleep s), (i, .woke s)]) ++ acts.map (i, ·))
        ⟨lastAfter last acts, Function.update stage i (.stands stand)⟩ :=
      ih hrec (by simpa [World.move, Dialogue.advance] using h.step (.go hr))
    rwa [List.append_assoc] at hrest
  | @recalled next given acts stand _ ih =>
    obtain ⟨rfl, hrec⟩ := hrec
    have hrest : Run w₀ ((log ++ [(i, .recalled given)]) ++ acts.map (i, ·))
        ⟨lastAfter given acts, Function.update stage i (.stands stand)⟩ :=
      ih hrec (by simpa [World.move, Dialogue.advance] using h)
    rwa [List.append_assoc] at hrest
  | @kept hash next acts stand _ ih =>
    have hrest : Run w₀ ((log ++ [(i, .kept hash)]) ++ acts.map (i, ·))
        ⟨lastAfter (some hash) acts, Function.update stage i (.stands stand)⟩ :=
      ih hrec (by simpa [World.move, Dialogue.advance] using h)
    rwa [List.append_assoc] at hrest

/-- **A task may go along any track that recollects**, while the others stand still. -/
theorem Run.follow {w₀ w : World ι α} {log : List (ι × Act)} {i : ι} {d stand : Dialogue α}
    {resumed acts : List Act} (h : Run w₀ log w) (hi : Resumes (w.stage i) resumed d)
    (ht : d.Track acts stand) (hrec : Recollects w.last acts) :
    ∃ w', Run w₀ (log ++ (resumed ++ acts).map (i, ·)) w' ∧ w'.last = lastAfter w.last acts ∧
      w'.stage i = .stands stand ∧ ∀ k, k ≠ i → w'.stage k = w.stage k := by
  have hgo := h.step (.go hi)
  rw [List.map_append, ← List.append_assoc] at hgo ⊢
  exact ⟨_, .extend ht hrec hgo, rfl, Function.update_self _ _ _, fun k hk => Function.update_of_ne hk _ _⟩

theorem track_of_course {d : Dialogue α} {m m' : Memory} {hs : List Happening} {a : α}
    (h : d.Course m hs (.finished a) m') :
    ∃ acts : List Act, d.Track acts (.done a) ∧ acts.filterMap Act.happening? = hs ∧ Recollects m.last acts ∧
      lastAfter m.last acts = m'.last := by
  generalize he : Ending.finished a = e at h
  induction h with
  | done =>
    cases he
    exact ⟨[], .done, rfl, trivial, rfl⟩
  | @answered c next m m' reply _ _ _ ih =>
    obtain ⟨acts, ht, rfl, hrec, hlast⟩ := ih he
    rw [Memory.afterCall_last] at hrec hlast
    exact ⟨_, .answered ht, rfl, hrec, hlast⟩
  | abandoned | interrupted => cases he
  | slept _ ih =>
    obtain ⟨acts, ht, rfl, hrec, hlast⟩ := ih he
    exact ⟨_, .woke ht, rfl, hrec, hlast⟩
  | @lastHash next m m' _ _ _ ih =>
    obtain ⟨acts, ht, rfl, hrec, hlast⟩ := ih he
    exact ⟨_, .recalled m.last ht, rfl, ⟨rfl, hrec⟩, hlast⟩
  | @remember hash next m m' _ _ _ ih =>
    obtain ⟨acts, ht, rfl, hrec, hlast⟩ := ih he
    exact ⟨_, .kept ht, rfl, hrec, hlast⟩

/-- **A dialogue that is run by itself is run so among tasks that stand still.** -/
theorem run_of_course {tasks : ι → Dialogue α} {i : ι} {m m' : Memory} {hs : List Happening} {a : α}
    (h : (tasks i).Course m hs (.finished a) m') :
    ∃ (acts : List Act) (w : World ι α), acts.filterMap Act.happening? = hs ∧
      Run (.start tasks m.last) (acts.map (i, ·)) w ∧ w.last = m'.last ∧ w.stage i = .stands (.done a) ∧
      ∀ k, k ≠ i → w.stage k = .new (tasks k) := by
  obtain ⟨acts, ht, hhs, hrec, hlast⟩ := track_of_course h
  have hstart : Run (World.start tasks m.last) [] (World.start tasks m.last) := .start
  obtain ⟨w, hrun, hw, hi, hothers⟩ := hstart.follow .begin ht hrec
  exact ⟨acts, w, hhs, hrun, hw.trans hlast, hi, hothers⟩

end Interleaving

end DidRegistry
