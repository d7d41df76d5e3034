import DidRegistry.Ledger.Answer

/-!
# Dialogues

What the library does with the world around it is written as a dialogue: a tree of asks, each with a
continuation for every reply.  A dialogue calls a node or a resolver, sleeps, and keeps in mind the
hash of the last transaction that was submitted.

`Dialogue.run` plays a dialogue against surroundings that answer the calls in their order and may
cancel it in one of its sleeps or while it waits for a reply.  Requests are numbered by one counter;
the run records every call and every sleep.

## Results

* `Dialogue.run_bind` — a dialogue that goes on after another one is run after it.
-/

set_option autoImplicit false

namespace DidRegistry

/-- A call that leaves the library. -/
inductive Call where
  /-- A request to the service at an address. -/
  | post (url : Text) (method : String) (params : List Json)
  /-- A transaction for a ledger that is called without requests; the calls below likewise. -/
  | send (transaction : Json)
  | receipt (hash : Json)
  | transaction (hash : Json)
  | height
deriving DecidableEq, Repr

/-- What a call comes back with. -/
def Call.Reply : Call → Type
  | .post _ _ _ => Except Breakdown Json
  | .send _ => Attempt Json
  | .receipt _ => Attempt Receipt
  | .transaction _ => Attempt KnownTransaction
  | .height => Attempt Json

/-- Something that a dialogue asks for. -/
inductive Ask where
  | call (c : Call)
  | sleep (seconds : Number)
  /-- The hash of the last submission. -/
  | lastHash
  /-- Keeps the hash of a submission. -/
  | remember (hash : Json)
deriving DecidableEq, Repr

/-- The reply to an ask. -/
def Ask.Reply : Ask → Type
  | .call c => c.Reply
  | .sleep _ => Unit
  | .lastHash => Option Json
  | .remember _ => Unit

/-- A dialogue that comes to a result of the type `α`. -/
inductive Dialogue (α : Type) : Type where
  | done (result : α)
  | ask (a : Ask) (next : a.Reply → Dialogue α)

namespace Dialogue

variable {α β : Type}

/-- Goes on with the result of a dialogue. -/
def bind : Dialogue α → (α → Dialogue β) → Dialogue β
  | .done a, f => f a
  | .ask a next, f => .ask a fun r => bind (next r) f

instance : Monad Dialogue where
  pure := .done
  bind := .bind

/-- A call and its reply. -/
def call (c : Call) : Dialogue c.Reply := .ask (.call c) .done

/-- A request and its response. -/
def post (url : Text) (method : String) (params : List Json) : Dialogue (Except Breakdown Json) :=
  call (.post url method params)

/-- Sleeps. -/
def sleep (seconds : Number) : Dialogue Unit := .ask (.sleep seconds) .done

/-- The hash of the last submission. -/
def lastHash : Dialogue (Option Json) := .ask .lastHash .done

/-- Keeps the hash of a submission. -/
def remember (hash : Json) : Dialogue Unit := .ask (.remember hash) .done

end Dialogue

/-- What happened in a run. -/
inductive Event where
  /-- A request was sent under a number. -/
  | posted (id : Nat) (url : Text) (method : String) (params : List Json)
  /-- A ledger was called without a request. -/
  | called (c : Call)
  | slept (seconds : Number)
deriving DecidableEq, Repr

/-- What outlasts a run. -/
structure Memory where
  /-- The number of the next request. -/
  nextId : Nat
  /-- The hash of the last submission. -/
  last : Option Json
deriving DecidableEq, Repr

/-- The memory before anything has happened. -/
def Memory.fresh : Memory := ⟨1, none⟩

/-- A run that has come to some point: the memory, the number of calls and of sleeps, and what
happened, the latest last. -/
structure Progress where
  memory : Memory
  calls : Nat := 0
  sleeps : Nat := 0
  events : List Event := []
deriving DecidableEq, Repr

/-- The surroundings of a run. -/
structure Surroundings where
  /-- The reply to a call, by its number in the run, counted from 0. -/
  respond : (number : Nat) → (c : Call) → c.Reply
  /-- The number of the sleep, counted from 1, from which on the run is cancelled. -/
  cancelAt : Option Nat := none
  /-- The number of the call, counted from 0, whose reply does not come: the run is cancelled while it
  waits for it. -/
  cancelInCall : Option Nat := none

/-- How a run ends. -/
inductive Ending (α : Type) where
  | finished (result : α)
  /-- It was cancelled in a sleep or in a call. -/
  | cancelled
deriving DecidableEq, Repr

namespace Progress

/-- The run after a call. -/
def afterCall (p : Progress) (c : Call) : Progress :=
  match c with
  | .post url method params =>
    { p with
      memory := { p.memory with nextId := p.memory.nextId + 1 }
      calls := p.calls + 1
      events := p.events ++ [.posted p.memory.nextId url method params] }
  | c => { p with calls := p.calls + 1, events := p.events ++ [.called c] }

/-- The run after a sleep. -/
def afterSleep (p : Progress) (seconds : Number) : Progress :=
  { p with sleeps := p.sleeps + 1, events := p.events ++ [.slept seconds] }

/-- The run after a hash was kept. -/
def afterRemember (p : Progress) (hash : Json) : Progress :=
  { p with memory := { p.memory with last := some hash } }

end Progress

/-- Whether the surroundings cancel a run in its sleep number `n`. -/
def Surroundings.cancels (w : Surroundings) (n : Nat) : Bool :=
  match w.cancelAt with
  | some k => decide (k ≤ n)
  | none => false

/-- Whether the surroundings cancel a run in its call number `n`. -/
def Surroundings.cancelsCall (w : Surroundings) (n : Nat) : Bool := w.cancelInCall == some n

namespace Dialogue

variable {α β : Type}

/-- Plays a dialogue against its surroundings. -/
def run (w : Surroundings) : Dialogue α → Progress → Ending α × Progress
  | .done a, p => (.finished a, p)
  | .ask (.call c) next, p =>
    if w.cancelsCall p.calls then (.cancelled, p.afterCall c)
    else run w (next (w.respond p.calls c)) (p.afterCall c)
  | .ask (.sleep s) next, p =>
    let p := p.afterSleep s
    if w.cancels p.sleeps then (.cancelled, p) else run w (next ()) p
  | .ask .lastHash next, p => run w (next p.memory.last) p
  | .ask (.remember hash) next, p => run w (next ()) (p.afterRemember hash)

/-- A dialogue that goes on after another one is run after it. -/
theorem run_bind (w : Surroundings) (f : α → Dialogue β) (d : Dialogue α) (p : Progress) :
    (d.bind f).run w p =
      match d.run w p with
      | (.finished a, q) => (f a).run w q
      | (.cancelled, q) => (.cancelled, q) := by
  induction d generalizing p with
  | done a => rfl
  | ask a next ih =>
    cases a with
    | call c =>
      simp only [bind, run]
      split
      · rfl
      · exact ih _ _
    | sleep s =>
      simp only [bind, run]
      split
      · rfl
      · exact ih _ _
    | lastHash => exact ih _ _
    | remember h => exact ih _ _

end Dialogue

end DidRegistry
