import DidRegistry.Session
import DidRegistry.Proofs.Ledger.Transcript

/-!
# Turns of a session

A turn is a step of a session that was taken: what was kept in memory before it and after it, what
happened in it, and how it ended.  The turns of a run say more than what is played, which holds the
asks and not what came of them.

## Results

* `Session.turns_playAll` — the turns of a run have the endings, the memories and the asks of what is
  played.
* `Session.turns_course` — **every turn of every run takes a course of the dialogue of its step**.
-/

set_option autoImplicit false

namespace DidRegistry

/-- A step that was taken. -/
structure Turn where
  step : Step
  before : Memory
  transcript : List Happening
  ending : Ending (Except Report Product)
  after : Memory

namespace Session

section

variable [Platform]

/-- A step that is taken with `memory` kept. -/
def turn (s : Session) (w : Surroundings) (step : Step) (memory : Memory) : Turn where
  step := step
  before := memory
  transcript := (s.dialogue step).transcript w { memory }
  ending := (s.play w step memory).1
  after := (s.play w step memory).2.memory

/-- Steps that are taken, each in its own surroundings, one after the other. -/
def turns (s : Session) : List (Step × Surroundings) → Memory → List Turn
  | [], _ => []
  | (step, w) :: r, memory => s.turn w step memory :: s.turns r (s.turn w step memory).after

variable {s : Session}

theorem turn_asks (w : Surroundings) (step : Step) (memory : Memory) :
    (s.turn w step memory).transcript.map Happening.ask =
      (s.play w step memory).2.events.map Event.ask := by
  have h := Dialogue.run_asks w (s.dialogue step) { memory }
  rw [List.map_nil, List.nil_append] at h
  exact h.symm

/-- The turns of a run have the endings, the memories and the asks of what is played. -/
theorem turns_playAll (plays : List (Step × Surroundings)) (memory : Memory) :
    ((s.turns plays memory).map fun t => (t.ending, t.after, t.transcript.map Happening.ask)) =
      (s.playAll plays memory).map fun q => (q.1, q.2.memory, q.2.events.map Event.ask) := by
  induction plays generalizing memory with
  | nil => rfl
  | cons p r ih =>
    obtain ⟨step, w⟩ := p
    simp only [turns, playAll, List.map_cons]
    rw [ih, turn_asks]
    rfl

theorem turn_course (w : Surroundings) (step : Step) (memory : Memory) :
    (s.dialogue step).Course memory (s.turn w step memory).transcript (s.turn w step memory).ending
      (s.turn w step memory).after :=
  Dialogue.run_course w (s.dialogue step) { memory }

/-- **Every turn of every run takes a course of the dialogue of its step.** -/
theorem turns_course {plays : List (Step × Surroundings)} {memory : Memory} {t : Turn}
    (h : t ∈ s.turns plays memory) :
    (s.dialogue t.step).Course t.before t.transcript t.ending t.after := by
  induction plays generalizing memory with
  | nil => cases h
  | cons p r ih =>
    obtain ⟨step, w⟩ := p
    rcases List.mem_cons.mp h with rfl | h
    · exact turn_course w step memory
    · exact ih h

theorem turns_step {plays : List (Step × Surroundings)} {memory : Memory} {t : Turn}
    (h : t ∈ s.turns plays memory) : ∃ p ∈ plays, p.1 = t.step := by
  induction plays generalizing memory with
  | nil => cases h
  | cons p r ih =>
    obtain ⟨step, w⟩ := p
    rcases List.mem_cons.mp h with rfl | h
    · exact ⟨_, List.mem_cons_self, rfl⟩
    · obtain ⟨q, hq, he⟩ := ih h
      exact ⟨q, List.mem_cons_of_mem _ hq, he⟩

end

/-! ## Dialogues of steps -/

/-- How a dialogue ends whose result is reported. -/
def reportedEnding {ε α : Type} (report : ε → Report) (product : α → Product) :
    Ending (Except ε α) → Ending (Except Report Product)
  | .finished (.ok a) => .finished (.ok (product a))
  | .finished (.error x) => .finished (.error (report x))
  | .cancelled => .cancelled

theorem transcript_reported {ε α : Type} (report : ε → Report) (product : α → Product)
    (d : Dialogue (Except ε α)) (w : Surroundings) (p : Progress) :
    (reported report product d).transcript w p = d.transcript w p := by
  rw [reported, Dialogue.transcript_bind]
  split <;> exact List.append_nil _

theorem course_reported {ε α : Type} {report : ε → Report} {product : α → Product}
    {d : Dialogue (Except ε α)} {m m' : Memory} {hs : List Happening} {e : Ending (Except Report Product)}
    (h : (reported report product d).Course m hs e m') :
    ∃ e', d.Course m hs e' m' ∧ e = reportedEnding report product e' := by
  rcases Dialogue.course_bind h with ⟨r, hs₁, hs₂, m₁, rfl, h₁, h₂⟩ | ⟨h₁, rfl⟩
  · obtain ⟨rfl, rfl, rfl⟩ := Dialogue.course_done h₂
    rw [List.append_nil]
    refine ⟨_, h₁, ?_⟩
    cases r <;> rfl
  · exact ⟨_, h₁, rfl⟩

end Session

end DidRegistry
