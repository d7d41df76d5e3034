import DidRegistry.Platform.Usual
import DidRegistry.Proofs.Session.LastHash
import DidRegistry.Proofs.Session.Admission

/-!
# The numbers of requests

One counter numbers the requests of a session, those to the node and those to the resolver.  It is drawn
from in the middle of steps, and also by steps that fail, or are cancelled, before or after their request
or while they wait for the reply to it.

## Results

* `Dialogue.run_requestIds` — the step lemma: a run sends its requests under the numbers that come next, and
  leaves the counter behind the last of them.
* `Session.requests_dialogue` — every step calls its services through requests, whatever path it takes.
* `Session.eventsOf_requestIds` — the run lemma, from any memory, by induction on the steps that are played.
* `Session.requests_numbered` — **the numbers of all requests of a session, in the order in which they are
  sent, are 1, 2, …, n**, where n counts the calls that leave it.
-/

set_option autoImplicit false

namespace DidRegistry

/-! ## Requests as they are sent -/

/-- The request that an event sends. -/
def Event.request? : Event → Option Json
  | .posted id _ method params => some (Rpc.request id (.str method) (.arr params))
  | _ => none

/-- Whether an event is a call, through a request or without one. -/
def Event.isCall : Event → Bool
  | .slept _ => false
  | _ => true

/-- The number that a request bears. -/
def requestId? (request : Json) : Option Json := request.get? "id"

/-- The numbers of the requests that were sent, in order. -/
def requestIds (es : List Event) : List Json := (es.filterMap Event.request?).filterMap requestId?

/-- The numbers from `first` on, `count` of them. -/
def idsFrom (first count : Nat) : List Json :=
  (List.range' first count).map fun (n : Nat) => Json.int n

/-- An event that is no call, or a request. -/
def Event.IsRequest : Event → Prop
  | .called _ => False
  | _ => True

/-- An ask that is no call, or a request. -/
def Ask.IsRequest : Ask → Prop
  | .call (.post _ _ _) => True
  | .call _ => False
  | _ => True

theorem requestIds_append (es fs : List Event) : requestIds (es ++ fs) = requestIds es ++ requestIds fs := by
  simp only [requestIds, List.filterMap_append]

theorem idsFrom_append (first count more : Nat) :
    idsFrom first count ++ idsFrom (first + count) more = idsFrom first (count + more) := by
  rw [idsFrom, idsFrom, idsFrom, ← List.map_append, List.range'_append_1]

/-! ## Runs -/

namespace Dialogue

variable {α β : Type}

/-- **A run sends its requests under the numbers that come next**, and leaves the counter behind the last of
them. -/
theorem run_requestIds (w : Surroundings) (d : Dialogue α) (p : Progress) :
    ∃ count, requestIds (d.run w p).2.events = requestIds p.events ++ idsFrom p.memory.nextId count ∧
      (d.run w p).2.memory.nextId = p.memory.nextId + count := by
  induction d generalizing p with
  | done a => exact ⟨0, by simp [run, idsFrom], rfl⟩
  | ask a next ih =>
    cases a with
    | call c =>
      -- what a call sends itself, whether or not the run goes on after it
      obtain ⟨sent, hids, hnext⟩ : ∃ sent,
          requestIds (p.afterCall c).events = requestIds p.events ++ idsFrom p.memory.nextId sent ∧
            (p.afterCall c).memory.nextId = p.memory.nextId + sent := by
        cases c with
        | post url method params =>
          refine ⟨1, ?_, rfl⟩
          simp only [Progress.afterCall, requestIds_append]
          rfl
        | _ =>
          refine ⟨0, ?_, rfl⟩
          simp only [Progress.afterCall, requestIds_append]
          rfl
      simp only [run]
      split
      · exact ⟨sent, hids, hnext⟩
      · obtain ⟨count, hrest, hlast⟩ := ih (w.respond p.calls c) (p.afterCall c)
        refine ⟨sent + count, ?_, by rw [hlast, hnext, Nat.add_assoc]⟩
        rw [hrest, hids, hnext, List.append_assoc, idsFrom_append]
    | sleep s =>
      have hslept : requestIds (p.afterSleep s).events = requestIds p.events := by
        simp only [Progress.afterSleep, requestIds_append]
        exact List.append_nil _
      simp only [run]
      split
      · exact ⟨0, by rw [hslept]; exact (List.append_nil _).symm, rfl⟩
      · obtain ⟨count, hrest, hlast⟩ := ih () (p.afterSleep s)
        exact ⟨count, by rw [hrest, hslept]; rfl, hlast⟩
    | lastHash => exact ih _ p
    | remember hash => exact ih () (p.afterRemember hash)

theorem Asks.run_isRequest {d : Dialogue α} (hd : d.Asks Ask.IsRequest)
    (w : Surroundings) {p : Progress} (hp : ∀ e ∈ p.events, e.IsRequest) :
    ∀ e ∈ (d.run w p).2.events, e.IsRequest := by
  induction hd generalizing p with
  | done a => exact hp
  | @ask a next ha _ ih =>
    have hadd : ∀ {x : Event} {es : List Event}, x.IsRequest → es = p.events ++ [x] →
        ∀ e ∈ es, e.IsRequest := by
      rintro x _ hx rfl e he
      rcases List.mem_append.mp he with he | he
      · exact hp e he
      · rwa [List.mem_singleton.mp he]
    cases a with
    | call c =>
      cases c with
      | post url method params =>
        have hcall := hadd (x := .posted p.memory.nextId url method params) ha rfl
        simp only [run]
        split
        · exact hcall
        · exact ih _ hcall
      | _ => exact absurd ha id
    | sleep s =>
      have hsleep := hadd (x := .slept s) trivial rfl
      simp only [run]
      split
      · exact hsleep
      · exact ih () hsleep
    | lastHash => exact ih _ hp
    | remember hash => exact ih () hp

end Dialogue

/-! ## Sessions -/

open Dialogue

namespace Session

variable {s : Session} {url : Text}

/-- Every step calls its services through requests, when the ledger is a node. -/
theorem requests_dialogue [Platform] (hl : s.registry.publisher.ledger = .ofNode url) (step : Step) :
    (s.dialogue step).Asks Ask.IsRequest := by
  have hreads : s.registry.publisher.ledger.ReadsWithin Ask.IsRequest := by
    rw [hl]
    exact Ledger.readsWithin_ofNode fun _ _ _ => trivial
  have hquestions : Resolver.Allows Ask.IsRequest := fun _ _ _ => trivial
  have hsend (tx : Json) : (s.registry.publisher.ledger.send tx).Asks Ask.IsRequest := by
    rw [hl]
    exact Ledger.asks_send fun _ _ => trivial
  have hpublish (payload : List UInt8) (memo : Json) :
      (s.registry.publisher.publish payload memo).Asks Ask.IsRequest :=
    Publisher.asks_publication (fun call _ => hsend _) (fun _ => trivial) fun hash =>
      Publisher.asks_awaitAll (hreads.receipt hash) fun _ => trivial
  cases step with
  | publish payload memo => exact asks_reported (hpublish payload memo)
  | publishGuarded subject op memo =>
    refine asks_reported ?_
    rw [Registry.publishGuarded_eq]
    refine (Publisher.asks_isFree trivial fun hash => hreads.isSettled _ hash).bind fun a => ?_
    exact Registry.asks_goOn trivial (Registry.asks_guard hquestions)
      (Registry.asks_publish fun payload => hpublish payload memo) a
  | send tx => exact asks_reported (hsend tx)
  | _ => exact asks_dialogue hreads hquestions trivial rfl

/-- What happens while steps are taken one after the other, in order. -/
def eventsOf [Platform] (s : Session) (plays : List (Step × Surroundings)) (memory : Memory) : List Event :=
  (s.playAll plays memory).flatMap fun played => played.2.events

theorem eventsOf_cons [Platform] (step : Step) (w : Surroundings) (plays : List (Step × Surroundings))
    (memory : Memory) :
    s.eventsOf ((step, w) :: plays) memory =
      (s.play w step memory).2.events ++ s.eventsOf plays (s.play w step memory).2.memory := by
  simp [eventsOf, playAll]

/-- **Steps that are taken one after the other send their requests under the numbers that come next.** -/
theorem eventsOf_requestIds [Platform] (plays : List (Step × Surroundings)) (memory : Memory) :
    ∃ count, requestIds (s.eventsOf plays memory) = idsFrom memory.nextId count := by
  induction plays generalizing memory with
  | nil => exact ⟨0, rfl⟩
  | cons p r ih =>
    obtain ⟨step, w⟩ := p
    -- the counter goes on from where the first step leaves it
    obtain ⟨first, hids, hnext⟩ := run_requestIds w (s.dialogue step) { memory }
    obtain ⟨others, hothers⟩ := ih (s.play w step memory).2.memory
    refine ⟨first + others, ?_⟩
    rw [eventsOf_cons, requestIds_append, hothers, ← idsFrom_append]
    congr 1
    exact congrArg (idsFrom · others) hnext

theorem eventsOf_isRequest [Platform] (hl : s.registry.publisher.ledger = .ofNode url)
    (plays : List (Step × Surroundings)) (memory : Memory) :
    ∀ e ∈ s.eventsOf plays memory, e.IsRequest := by
  induction plays generalizing memory with
  | nil => simp [eventsOf, playAll]
  | cons p r ih =>
    obtain ⟨step, w⟩ := p
    intro e he
    rw [eventsOf_cons] at he
    rcases List.mem_append.mp he with he | he
    · exact (requests_dialogue hl step).run_isRequest w (by simp) e he
    · exact ih _ e he

theorem length_requestIds {es : List Event} (h : ∀ e ∈ es, e.IsRequest) :
    (requestIds es).length = es.countP Event.isCall := by
  induction es with
  | nil => rfl
  | cons e es ih =>
    have ih := ih fun x hx => h x (List.mem_cons_of_mem _ hx)
    cases e with
    | posted id url method params =>
      rw [List.countP_cons_of_pos rfl, ← ih]
      rfl
    | called c => exact absurd (h _ List.mem_cons_self) id
    | slept seconds =>
      rw [List.countP_cons_of_neg Bool.false_ne_true, ← ih]
      rfl

/-- **The numbers of all requests of a session, in the order in which they are sent, are 1, 2, …, n.**
Here n counts all calls that leave the session, to the node or to a resolver, whatever they come back
with and wherever a step is cancelled: every one of them is a request that bears a number. -/
theorem requests_numbered [Platform] {s : Session} {url : Text}
    (hl : s.registry.publisher.ledger = .ofNode url)
    (plays : List (Step × Surroundings)) :
    requestIds (s.eventsOf plays .fresh) =
      idsFrom 1 ((s.eventsOf plays .fresh).countP Event.isCall) := by
  obtain ⟨count, h⟩ := s.eventsOf_requestIds plays .fresh
  have hcount : count = (s.eventsOf plays .fresh).countP Event.isCall := by
    rw [← length_requestIds (eventsOf_isRequest hl plays .fresh), h]
    simp [idsFrom]
  rw [h, ← hcount]
  rfl

/-- A query for a receipt that is cancelled while it waits for the reply, a resolution that breaks down,
and a query for the highest block. -/
def cutShort : List (Step × Surroundings) :=
  [(.receipt (.str "0xab"), { Publisher.unmined with cancelInCall := some 0 }),
    (.biographyOfDid (.str "did:elastos:abc") (.bool true), Publisher.unmined),
    (.height, Publisher.unmined)]

section

attribute [local instance] Platform.usual

theorem requests_numbered_cutShort :
    nodeSample.registry.publisher.ledger = .ofNode "http://localhost:8545" ∧
      (nodeSample.eventsOf cutShort .fresh).countP Event.isCall = 3 ∧
      requestIds (nodeSample.eventsOf cutShort .fresh) = [.int 1, .int 2, .int 3] := by
  have hn : (nodeSample.eventsOf cutShort .fresh).countP Event.isCall = 3 := by decide
  refine ⟨rfl, hn, ?_⟩
  rw [requests_numbered rfl cutShort, hn]
  rfl

end

end Session

end DidRegistry
