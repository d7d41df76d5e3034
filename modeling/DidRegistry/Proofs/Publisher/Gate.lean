import DidRegistry.Publisher.Basic
import DidRegistry.Proofs.Ledger.Submission

/-!
# The gate of a publisher

Before a publisher behind a node takes the next write it finds out where the last one is.  What the node
says is read off its responses here, without the steps of the lookup: a transaction is not known, or it
waits for its block, or it is in a block of some number; and the highest block has some number.

## Results

* `Ledger.isSettled_gate` — the courses of finding out whether a transaction is settled.
* `Publisher.isFree_gate` — **the gate is open exactly for a transaction that is not known or lies deep
  enough**; it is closed for one that is pending or not deep enough, and a response that cannot be read
  is an error.
-/

set_option autoImplicit false

namespace DidRegistry

/-! ## What a node says -/

/-- Where the response to a lookup puts a transaction. -/
inductive Sighting where
  | unknown
  /-- It waits for its block. -/
  | pending
  | inBlock (number : Int)
deriving DecidableEq, Repr

/-- Where the response to a lookup puts a transaction; nowhere when it is an error or cannot be read. -/
def sightingOf? (response : Except Breakdown Json) : Option Sighting :=
  match Rpc.resultOf? response with
  | some .null => some .unknown
  | some (.obj ms) =>
    match Quantity.read ((Json.Members.get? ms "blockNumber").getD .null) with
    | .ok none => some .pending
    | .ok (some n) => n.whole?.map .inBlock
    | .error _ => none
  | _ => none

/-- The number of the highest block that a response gives; none when it is an error or cannot be
read. -/
def headOf? (response : Except Breakdown Json) : Option Int :=
  match Rpc.resultOf? response with
  | some v =>
    match Quantity.read v with
    | .ok (some n) => n.whole?
    | _ => none
  | none => none

/-- The request that looks a transaction up. -/
def lookup (url : Text) (hash : Json) : Call := .post url "eth_getTransactionByHash" [hash]

/-- The request for the number of the highest block. -/
def headQuery (url : Text) : Call := .post url "eth_blockNumber" []

theorem Quantity.read_whole {v : Json} {n : Number} (h : Quantity.read v = .ok (some n)) :
    ∃ k, n.whole? = some k := by
  unfold Quantity.read at h
  split at h
  · cases h
  · cases h; exact ⟨_, rfl⟩
  · cases h; exact ⟨_, rfl⟩
  · split at h
    · split at h
      · cases h; exact ⟨_, rfl⟩
      · cases h
    · cases h
  · cases h

namespace Json

@[simp] theorem number?_ofNumber (n : Number) : (ofNumber n).number? = some n := by
  cases n <;> rfl

theorem ofNumber_ne_null (n : Number) : ofNumber n ≠ .null := by
  cases n <;> simp [ofNumber]

end Json

namespace Ledger

/-- What a lookup comes to, by where its response puts the transaction. -/
theorem lookup_attempt (hash : Json) (response : Except Breakdown Json) :
    match sightingOf? response with
    | some .unknown => attemptOf (transactionAnswer hash) response = .ok .nothing
    | some .pending =>
      ∃ t, attemptOf (transactionAnswer hash) response = .ok (.found t) ∧ t.block = .null
    | some (.inBlock b) =>
      ∃ t n, attemptOf (transactionAnswer hash) response = .ok (.found t) ∧ t.block = .ofNumber n ∧
        n.whole? = some b
    | none =>
      (∃ x, attemptOf (transactionAnswer hash) response = .error x) ∨
        ∃ x, attemptOf (transactionAnswer hash) response = .ok (.failed x) := by
  unfold sightingOf?
  cases hr : Rpc.resultOf? response with
  | none => exact attemptOf_of_none _ hr
  | some v =>
    rw [attemptOf_of_result hr]
    cases v with
    | null => rfl
    | obj ms =>
      simp only [transactionAnswer, transactionOf, quantityIn, Json.get?]
      cases hq : Quantity.read ((Json.Members.get? ms "blockNumber").getD .null) with
      | error x => exact .inr ⟨_, rfl⟩
      | ok n =>
        cases n with
        | none => exact ⟨_, rfl, rfl⟩
        | some n =>
          obtain ⟨k, hk⟩ := Quantity.read_whole hq
          simp only [hk, Option.map_some]
          exact ⟨_, n, rfl, rfl, hk⟩
    | _ => exact .inl ⟨_, rfl⟩

/-- What the query for the highest block comes to, by the number that its response gives. -/
theorem head_attempt (response : Except Breakdown Json) :
    match headOf? response with
    | some k =>
      ∃ n, attemptOf (fun v => .ok (heightAnswer v)) response = .ok (.found (.ofNumber n)) ∧
        n.whole? = some k
    | none =>
      (∃ x, attemptOf (fun v => .ok (heightAnswer v)) response = .error x) ∨
        ∃ x, attemptOf (fun v => .ok (heightAnswer v)) response = .ok (.failed x) := by
  unfold headOf?
  cases hr : Rpc.resultOf? response with
  | none => exact attemptOf_of_none _ hr
  | some v =>
    rw [attemptOf_of_result hr]
    unfold heightAnswer
    dsimp only
    cases hq : Quantity.read v with
    | error x => exact Or.inr ⟨_, rfl⟩
    | ok n =>
      cases n with
      | none => exact Or.inr ⟨_, rfl⟩
      | some n =>
        obtain ⟨k, hk⟩ := Quantity.read_whole hq
        simp only [hk]
        exact ⟨n, rfl, hk⟩

end Ledger

/-! ## Depths -/

theorem Number.sub?_of_whole {a b : Number} {k l : Int} (ha : a.whole? = some k)
    (hb : b.whole? = some l) : a.sub? b = some (.int (k - l)) := by
  simp [Number.sub?, Number.combine, ha, hb]

theorem Standing.depth?_of_whole {c : Standing} {block head : Number} {b n : Int}
    (hb : c.block = .ofNumber block) (hh : c.head = .ofNumber head) (hbw : block.whole? = some b)
    (hhw : head.whole? = some n) : c.depth? = .ok (some (.int (n - b))) := by
  have hs := Number.sub?_of_whole hhw hbw
  unfold Standing.depth?
  rw [hb, hh]
  cases block with
  | real x => cases hbw
  | _ =>
    cases head with
    | real x => cases hhw
    | _ => simp only [Json.ofNumber, Json.number?, hs]

theorem Standing.isSettled_of_whole {c : Standing} {block head depth : Number} {b n : Int}
    (hf : c.found = true) (hb : c.block = .ofNumber block) (hh : c.head = .ofNumber head)
    (hbw : block.whole? = some b) (hhw : head.whole? = some n) :
    c.isSettled (.ofNumber depth) = .ok (depth.le (.int (n - b))) := by
  simp [Standing.isSettled, hf, Standing.depth?_of_whole hb hh hbw hhw]

/-! ## Courses of the gate -/

open Dialogue

/-- The courses of finding out whether a transaction is settled when `depth` blocks have to be on top of
its block: what was asked of the node at `url`, and the answer. -/
inductive Gate (url : Text) (hash : Json) (depth : Number) :
    List Happening → Ending (Except StandingError Bool) → Prop where
  /-- A transaction that is not known is in nobody's way. -/
  | unknown {response : Except Breakdown Json} (sighting : sightingOf? response = some .unknown) :
      Gate url hash depth [.answered (lookup url hash) response] (.finished (.ok true))
  /-- One that waits for its block is never settled. -/
  | pending {response : Except Breakdown Json} (sighting : sightingOf? response = some .pending) :
      Gate url hash depth [.answered (lookup url hash) response] (.finished (.ok false))
  /-- The response to the lookup cannot be read. -/
  | unreadable {response : Except Breakdown Json} {e : StandingError}
      (sighting : sightingOf? response = none) (kind : e.report.kind = .confirmationQuery) :
      Gate url hash depth [.answered (lookup url hash) response] (.finished (.error e))
  | abandoned : Gate url hash depth [.abandoned (lookup url hash)] .cancelled
  /-- One that is in a block is settled exactly when it lies deep enough. -/
  | inBlock {response answer : Except Breakdown Json} {b n : Int}
      (sighting : sightingOf? response = some (.inBlock b)) (head : headOf? answer = some n) :
      Gate url hash depth [.answered (lookup url hash) response, .answered (headQuery url) answer]
        (.finished (.ok (depth.le (.int (n - b)))))
  /-- The number of the highest block cannot be read. -/
  | headless {response answer : Except Breakdown Json} {b : Int} {e : StandingError}
      (sighting : sightingOf? response = some (.inBlock b)) (head : headOf? answer = none)
      (kind : e.report.kind = .confirmationQuery) :
      Gate url hash depth [.answered (lookup url hash) response, .answered (headQuery url) answer]
        (.finished (.error e))
  | headAbandoned {response : Except Breakdown Json} {b : Int}
      (sighting : sightingOf? response = some (.inBlock b)) :
      Gate url hash depth [.answered (lookup url hash) response, .abandoned (headQuery url)] .cancelled

variable {url : Text} {hash : Json} {depth : Number} {m m' : Memory} {hs : List Happening}

namespace Ledger

/-- The answer to whether a transaction is settled, once it is known where it is. -/
def settlement (depth : Number) (c : Except StandingError Standing) :
    Dialogue (Except StandingError Bool) :=
  .done (c.bind fun c => (c.isSettled (.ofNumber depth)).mapError .depth)

/-- The gate once the transaction is known to be in a block. -/
theorem standingInBlock_gate {response : Except Breakdown Json} {block : Number} {b : Int}
    (hs₀ : sightingOf? response = some (.inBlock b)) (hb : block.whole? = some b)
    {e : Ending (Except StandingError Bool)}
    (h : (((ofNode url).standingInBlock hash (.ofNumber block)).bind (settlement depth)).Course
      m hs e m') :
    Gate url hash depth (.answered (lookup url hash) response :: hs) e := by
  unfold standingInBlock at h
  rw [bind_eq, bind_assoc] at h
  rcases course_query_bind h with ⟨answer, rest, rfl, hr⟩ | ⟨rfl, rfl⟩
  · have hh := head_attempt answer
    cases hn : headOf? answer with
    | none =>
      rw [hn] at hh
      rcases hh with ⟨x, hx⟩ | ⟨x, hx⟩ <;> rw [hx] at hr <;>
        obtain ⟨rfl, rfl, -⟩ := course_done hr <;> exact .headless hs₀ hn rfl
    | some n =>
      rw [hn] at hh
      obtain ⟨head, hx, hw⟩ := hh
      rw [hx] at hr
      obtain ⟨rfl, rfl, -⟩ := course_done hr
      have hk : (Standing.mk hash true (.ofNumber block) (.ofNumber head)).isSettled (.ofNumber depth) =
          .ok (depth.le (.int (n - b))) := Standing.isSettled_of_whole rfl rfl rfl hb hw
      simp only [Except.bind, hk]
      exact .inBlock hs₀ hn
  · exact .headAbandoned hs₀

/-- **The gate of a ledger behind a node.** -/
theorem isSettled_gate {e : Ending (Except StandingError Bool)}
    (h : ((ofNode url).isSettled (.ofNumber depth) hash).Course m hs e m') :
    Gate url hash depth hs e := by
  have h : (((ofNode url).standing hash).bind (settlement depth)).Course m hs e m' := h
  unfold standing at h
  rw [bind_eq, bind_assoc] at h
  rcases course_query_bind h with ⟨response, rest, rfl, hr⟩ | ⟨rfl, rfl⟩
  · have ht := lookup_attempt hash response
    cases hsight : sightingOf? response with
    | none =>
      rw [hsight] at ht
      rcases ht with ⟨x, hx⟩ | ⟨x, hx⟩ <;> rw [hx] at hr <;>
        obtain ⟨rfl, rfl, -⟩ := course_done hr <;> exact .unreadable hsight rfl
    | some sight =>
      rw [hsight] at ht
      cases sight with
      | unknown =>
        rw [ht] at hr
        obtain ⟨rfl, rfl, -⟩ := course_done hr
        exact .unknown hsight
      | pending =>
        obtain ⟨t, hx, hb⟩ := ht
        rw [hx] at hr
        simp only [Answer.found, KnownTransaction.isPending, hb, decide_true, if_true] at hr
        obtain ⟨rfl, rfl, -⟩ := course_done hr
        exact .pending hsight
      | inBlock b =>
        obtain ⟨t, block, hx, hb, hw⟩ := ht
        rw [hx] at hr
        simp only [Answer.found, KnownTransaction.isPending, hb, Json.ofNumber_ne_null, decide_false,
          Bool.false_eq_true, if_false] at hr
        exact standingInBlock_gate hsight hw hr
  · exact .abandoned

end Ledger

/-- **The gate of a publisher behind a node**, for a hash that is kept. -/
theorem Publisher.isFree_gate {p : Publisher} (hl : p.ledger = .ofNode url)
    (hm : m.last = some hash) {e : Ending (Except StandingError Bool)}
    (h : p.isFree.Course m hs e m') : Gate url hash p.settings.depth hs e := by
  have hf := course_lastHash h
  rw [hm, hl] at hf
  exact Ledger.isSettled_gate hf

end DidRegistry
