import DidRegistry.Ledger.Dialogue

/-!
# Transcripts of runs

A run records what was asked.  A transcript records beside every ask what came of it: the reply to a
call, or that the run was cancelled while it waited for one.  `Dialogue.Course` says, without any
surroundings, which transcripts a dialogue may have and how it ends and what is kept in memory after
each of them: every reply to a call is possible, and so is every cancellation.

## Results

* `Dialogue.run_course` — **every run takes a course of its dialogue**, so that what holds of every
  course holds of every run.
* `Dialogue.run_asks` — the calls and sleeps of a run are those of its transcript, in order.
* `Dialogue.transcript_bind` — the transcript of a dialogue that goes on after another one.
* `Dialogue.course_bind` — the courses of a dialogue that goes on after another one.
* `Dialogue.Asks.course`, `Dialogue.Asks.last_eq` — what a dialogue never asks for is in no
  transcript of it; one that keeps no hash leaves the kept hash as it is.
-/

set_option autoImplicit false

namespace DidRegistry

/-- Something that happened in a run, with what came of it. -/
inductive Happening where
  | answered (c : Call) (reply : c.Reply)
  /-- The run was cancelled while it waited for the reply. -/
  | abandoned (c : Call)
  | slept (seconds : Number)
  /-- The run was cancelled in the sleep. -/
  | interrupted (seconds : Number)

/-- What was asked for. -/
def Happening.ask : Happening → Ask
  | .answered c _ | .abandoned c => .call c
  | .slept s | .interrupted s => .sleep s

/-- What was asked for. -/
def Event.ask : Event → Ask
  | .posted _ url method params => .call (.post url method params)
  | .called c => .call c
  | .slept s => .sleep s

/-- The memory after a call: a request takes the next number. -/
def Memory.afterCall (m : Memory) : Call → Memory
  | .post _ _ _ => { m with nextId := m.nextId + 1 }
  | _ => m

@[simp] theorem Memory.afterCall_last (m : Memory) (c : Call) : (m.afterCall c).last = m.last := by
  cases c <;> rfl

namespace Progress

@[simp] theorem afterCall_memory (p : Progress) (c : Call) :
    (p.afterCall c).memory = p.memory.afterCall c := by
  cases c <;> rfl

@[simp] theorem afterSleep_memory (p : Progress) (s : Number) : (p.afterSleep s).memory = p.memory := rfl

@[simp] theorem afterRemember_memory (p : Progress) (h : Json) :
    (p.afterRemember h).memory = { p.memory with last := some h } := rfl

@[simp] theorem afterCall_asks (p : Progress) (c : Call) :
    (p.afterCall c).events.map Event.ask = p.events.map Event.ask ++ [.call c] := by
  cases c <;> simp [afterCall, Event.ask]

@[simp] theorem afterSleep_asks (p : Progress) (s : Number) :
    (p.afterSleep s).events.map Event.ask = p.events.map Event.ask ++ [.sleep s] := by
  simp [afterSleep, Event.ask]

@[simp] theorem afterRemember_events (p : Progress) (h : Json) :
    (p.afterRemember h).events = p.events := rfl

end Progress

/-- What a run came to, if it was finished and did not fail. -/
def Ending.value? {ε α : Type} : Ending (Except ε α) → Option α
  | .finished (.ok a) => some a
  | _ => none

theorem Ending.value?_eq_some {ε α : Type} {e : Ending (Except ε α)} {a : α} :
    e.value? = some a ↔ e = .finished (.ok a) := by
  rcases e with (_ | _) | _ <;> simp [value?]

namespace Dialogue

variable {α β : Type}

@[simp] theorem bind_eq (d : Dialogue α) (f : α → Dialogue β) : d >>= f = d.bind f := rfl

@[simp] theorem pure_eq (a : α) : (pure a : Dialogue α) = .done a := rfl

/-- What happens in a run. -/
def transcript (w : Surroundings) : Dialogue α → Progress → List Happening
  | .done _, _ => []
  | .ask (.call c) next, p =>
    if w.cancelsCall p.calls then [.abandoned c]
    else
      .answered c (w.respond p.calls c) :: transcript w (next (w.respond p.calls c)) (p.afterCall c)
  | .ask (.sleep s) next, p =>
    if w.cancels (p.afterSleep s).sleeps then [.interrupted s]
    else .slept s :: transcript w (next ()) (p.afterSleep s)
  | .ask .lastHash next, p => transcript w (next p.memory.last) p
  | .ask (.remember hash) next, p => transcript w (next ()) (p.afterRemember hash)

/-- The calls and sleeps of a run are those of its transcript, in order. -/
theorem run_asks (w : Surroundings) (d : Dialogue α) (p : Progress) :
    (d.run w p).2.events.map Event.ask =
      p.events.map Event.ask ++ (d.transcript w p).map Happening.ask := by
  induction d generalizing p with
  | done a => simp [run, transcript]
  | ask a next ih =>
    cases a with
    | call c =>
      simp only [run, transcript]
      split
      · simp [Happening.ask]
      · rw [ih (w.respond p.calls c) (p.afterCall c)]
        simp [Happening.ask]
    | sleep s =>
      simp only [run, transcript]
      split
      · simp [Happening.ask]
      · rw [ih () (p.afterSleep s)]
        simp [Happening.ask]
    | lastHash => exact ih _ _
    | remember h => exact ih () (p.afterRemember h)

theorem transcript_bind (w : Surroundings) (f : α → Dialogue β) (d : Dialogue α) (p : Progress) :
    (d.bind f).transcript w p = d.transcript w p ++
      match d.run w p with
      | (.finished a, q) => (f a).transcript w q
      | (.cancelled, _) => [] := by
  induction d generalizing p with
  | done a => rfl
  | ask a next ih =>
    cases a with
    | call c =>
      simp only [bind, run, transcript]
      split
      · rfl
      · exact congrArg (List.cons _) (ih _ _)
    | sleep s =>
      simp only [bind, run, transcript]
      split
      · rfl
      · exact congrArg (List.cons _) (ih _ _)
    | lastHash => exact ih _ _
    | remember h => exact ih _ _

theorem mem_transcript_bind {w : Surroundings} {f : α → Dialogue β} {d : Dialogue α} {p : Progress} {a : α}
    {x : Happening} (h : (d.run w p).1 = .finished a) (hx : x ∈ (f a).transcript w (d.run w p).2) :
    x ∈ (d.bind f).transcript w p := by
  have hrun : d.run w p = (.finished a, (d.run w p).2) := Prod.ext h rfl
  rw [transcript_bind, hrun]
  exact List.mem_append_right _ hx

theorem bind_assoc {γ : Type} (d : Dialogue α) (f : α → Dialogue β) (g : β → Dialogue γ) :
    (d.bind f).bind g = d.bind fun a => (f a).bind g := by
  induction d with
  | done a => rfl
  | ask a next ih => exact congrArg (Dialogue.ask a) (funext ih)

/-! ## Courses -/

/-- A dialogue that starts with the memory `m` may have the transcript `hs`, end with `e` and leave
the memory `m'`. -/
inductive Course : Dialogue α → Memory → List Happening → Ending α → Memory → Prop where
  | done {a : α} {m : Memory} : Course (.done a) m [] (.finished a) m
  | answered {c : Call} {next : c.Reply → Dialogue α} {m m' : Memory} {reply : c.Reply}
      {hs : List Happening} {e : Ending α} :
      Course (next reply) (m.afterCall c) hs e m' →
      Course (.ask (.call c) next) m (.answered c reply :: hs) e m'
  | abandoned {c : Call} {next : c.Reply → Dialogue α} {m : Memory} :
      Course (.ask (.call c) next) m [.abandoned c] .cancelled (m.afterCall c)
  | slept {s : Number} {next : Unit → Dialogue α} {m m' : Memory} {hs : List Happening}
      {e : Ending α} :
      Course (next ()) m hs e m' → Course (.ask (.sleep s) next) m (.slept s :: hs) e m'
  | interrupted {s : Number} {next : Unit → Dialogue α} {m : Memory} :
      Course (.ask (.sleep s) next) m [.interrupted s] .cancelled m
  | lastHash {next : Option Json → Dialogue α} {m m' : Memory} {hs : List Happening} {e : Ending α} :
      Course (next m.last) m hs e m' → Course (.ask .lastHash next) m hs e m'
  | remember {hash : Json} {next : Unit → Dialogue α} {m m' : Memory} {hs : List Happening}
      {e : Ending α} :
      Course (next ()) { m with last := some hash } hs e m' →
      Course (.ask (.remember hash) next) m hs e m'

/-- **Every run takes a course of its dialogue.** -/
theorem run_course (w : Surroundings) (d : Dialogue α) (p : Progress) :
    d.Course p.memory (d.transcript w p) (d.run w p).1 (d.run w p).2.memory := by
  induction d generalizing p with
  | done a => exact .done
  | ask a next ih =>
    cases a with
    | call c =>
      simp only [run, transcript]
      split
      · rw [Progress.afterCall_memory]
        exact .abandoned
      · have hc := ih (w.respond p.calls c) (p.afterCall c)
        rw [Progress.afterCall_memory] at hc
        exact .answered hc
    | sleep s =>
      simp only [run, transcript]
      split
      · exact .interrupted
      · exact .slept (ih () (p.afterSleep s))
    | lastHash => exact .lastHash (ih _ p)
    | remember h => exact .remember (ih () (p.afterRemember h))

variable {m m' : Memory} {hs : List Happening}

theorem course_done {a : α} {e : Ending α} (h : (Dialogue.done a).Course m hs e m') :
    hs = [] ∧ e = .finished a ∧ m' = m := by
  cases h
  exact ⟨rfl, rfl, rfl⟩

theorem course_lastHash {next : Option Json → Dialogue α} {e : Ending α}
    (h : (Dialogue.ask .lastHash next).Course m hs e m') : (next m.last).Course m hs e m' := by
  cases h
  assumption

theorem course_remember {hash : Json} {next : Unit → Dialogue α} {e : Ending α}
    (h : (Dialogue.ask (.remember hash) next).Course m hs e m') :
    (next ()).Course { m with last := some hash } hs e m' := by
  cases h
  assumption

theorem course_call {c : Call} {next : c.Reply → Dialogue α} {e : Ending α}
    (h : (Dialogue.ask (.call c) next).Course m hs e m') :
    (∃ reply rest, hs = .answered c reply :: rest ∧ (next reply).Course (m.afterCall c) rest e m') ∨
      (hs = [.abandoned c] ∧ e = .cancelled ∧ m' = m.afterCall c) := by
  cases h with
  | answered h => exact .inl ⟨_, _, rfl, h⟩
  | abandoned => exact .inr ⟨rfl, rfl, rfl⟩

theorem course_of_call {c : Call} {e : Ending c.Reply} (h : (Dialogue.call c).Course m hs e m') :
    m' = m.afterCall c ∧
      ((∃ reply, hs = [.answered c reply] ∧ e = .finished reply) ∨
        (hs = [.abandoned c] ∧ e = .cancelled)) := by
  rcases course_call h with ⟨reply, rest, rfl, hd⟩ | ⟨rfl, rfl, rfl⟩
  · obtain ⟨rfl, rfl, rfl⟩ := course_done hd
    exact ⟨rfl, .inl ⟨reply, rfl, rfl⟩⟩
  · exact ⟨rfl, .inr ⟨rfl, rfl⟩⟩

theorem course_call_bind {c : Call} {f : c.Reply → Dialogue β} {e : Ending β}
    (h : ((Dialogue.call c).bind f).Course m hs e m') :
    (∃ reply rest, hs = .answered c reply :: rest ∧ (f reply).Course (m.afterCall c) rest e m') ∨
      (hs = [.abandoned c] ∧ e = .cancelled ∧ m' = m.afterCall c) :=
  course_call h

theorem course_sleep {s : Number} {next : Unit → Dialogue α} {e : Ending α}
    (h : (Dialogue.ask (.sleep s) next).Course m hs e m') :
    (∃ rest, hs = .slept s :: rest ∧ (next ()).Course m rest e m') ∨
      (hs = [.interrupted s] ∧ e = .cancelled ∧ m' = m) := by
  cases h with
  | slept h => exact .inl ⟨_, rfl, h⟩
  | interrupted => exact .inr ⟨rfl, rfl, rfl⟩

/-- **The courses of a dialogue that goes on after another one**: a course of the first one to its
end and one of the second, or a course of the first one that is cancelled. -/
theorem course_bind {d : Dialogue α} {f : α → Dialogue β} {e : Ending β}
    (h : (d.bind f).Course m hs e m') :
    (∃ a hs₁ hs₂ m₁, hs = hs₁ ++ hs₂ ∧ d.Course m hs₁ (.finished a) m₁ ∧
        (f a).Course m₁ hs₂ e m') ∨
      (d.Course m hs .cancelled m' ∧ e = .cancelled) := by
  induction d generalizing m hs with
  | done a => exact .inl ⟨a, [], hs, m, rfl, .done, h⟩
  | ask a next ih =>
    cases a with
    | call c =>
      rcases course_call h with ⟨reply, rest, rfl, hr⟩ | ⟨rfl, rfl, rfl⟩
      · rcases ih reply hr with ⟨a, hs₁, hs₂, m₁, rfl, h₁, h₂⟩ | ⟨hc, rfl⟩
        · exact .inl ⟨a, .answered c reply :: hs₁, hs₂, m₁, rfl, .answered h₁, h₂⟩
        · exact .inr ⟨.answered hc, rfl⟩
      · exact .inr ⟨.abandoned, rfl⟩
    | sleep s =>
      rcases course_sleep h with ⟨rest, rfl, hr⟩ | ⟨rfl, rfl, rfl⟩
      · rcases ih () hr with ⟨a, hs₁, hs₂, m₁, rfl, h₁, h₂⟩ | ⟨hc, rfl⟩
        · exact .inl ⟨a, .slept s :: hs₁, hs₂, m₁, rfl, .slept h₁, h₂⟩
        · exact .inr ⟨.slept hc, rfl⟩
      · exact .inr ⟨.interrupted, rfl⟩
    | lastHash =>
      rcases ih m.last (course_lastHash h) with ⟨a, hs₁, hs₂, m₁, rfl, h₁, h₂⟩ | ⟨hc, rfl⟩
      · exact .inl ⟨a, hs₁, hs₂, m₁, rfl, .lastHash h₁, h₂⟩
      · exact .inr ⟨.lastHash hc, rfl⟩
    | remember hash =>
      rcases ih () (course_remember h) with ⟨a, hs₁, hs₂, m₁, rfl, h₁, h₂⟩ | ⟨hc, rfl⟩
      · exact .inl ⟨a, hs₁, hs₂, m₁, rfl, .remember h₁, h₂⟩
      · exact .inr ⟨.remember hc, rfl⟩

/-! ## What a dialogue asks for -/

/-- Every ask of a dialogue, whatever came before it, is one of those that `P` allows. -/
inductive Asks (P : Ask → Prop) : Dialogue α → Prop where
  | done (a : α) : Asks P (.done a)
  | ask {a : Ask} {next : a.Reply → Dialogue α} :
      P a → (∀ reply, Asks P (next reply)) → Asks P (.ask a next)

variable {P : Ask → Prop}

theorem Asks.call {c : Call} (h : P (.call c)) : Asks P (Dialogue.call c) := .ask h fun r => .done r

theorem Asks.mono {Q : Ask → Prop} {d : Dialogue α} (h : ∀ a, P a → Q a) (hd : Asks P d) : Asks Q d := by
  induction hd with
  | done a => exact .done a
  | ask ha _ ih => exact .ask (h _ ha) ih

theorem Asks.bind {d : Dialogue α} {f : α → Dialogue β} (hd : Asks P d) (hf : ∀ a, Asks P (f a)) :
    Asks P (d.bind f) := by
  induction hd with
  | done a => exact hf a
  | ask ha _ ih => exact .ask ha ih

/-- What a dialogue never asks for is in no transcript of it. -/
theorem Asks.course {d : Dialogue α} {e : Ending α} (hd : Asks P d) (h : d.Course m hs e m') :
    ∀ x ∈ hs, P x.ask := by
  induction h with
  | done => intro x hx; cases hx
  | answered _ ih =>
    cases hd with
    | ask ha hn =>
      intro x hx
      rcases List.mem_cons.mp hx with rfl | hx
      · exact ha
      · exact ih (hn _) x hx
  | abandoned | interrupted =>
    cases hd with
    | ask ha _ =>
      intro x hx
      rcases List.mem_singleton.mp hx with rfl
      exact ha
  | slept _ ih =>
    cases hd with
    | ask ha hn =>
      intro x hx
      rcases List.mem_cons.mp hx with rfl | hx
      · exact ha
      · exact ih (hn _) x hx
  | lastHash _ ih | remember _ ih =>
    cases hd with
    | ask _ hn => exact ih (hn _)

/-- A dialogue that keeps no hash leaves the kept one as it is. -/
theorem Asks.last_eq {d : Dialogue α} {e : Ending α} (hd : Asks P d)
    (hP : ∀ hash, ¬ P (.remember hash)) (h : d.Course m hs e m') : m'.last = m.last := by
  induction h with
  | done | interrupted => rfl
  | abandoned => exact Memory.afterCall_last _ _
  | answered _ ih =>
    cases hd with
    | ask _ hn => rw [ih (hn _), Memory.afterCall_last]
  | slept _ ih | lastHash _ ih =>
    cases hd with
    | ask _ hn => exact ih (hn _)
  | remember _ _ =>
    cases hd with
    | ask ha _ => exact absurd ha (hP _)

end Dialogue

end DidRegistry
