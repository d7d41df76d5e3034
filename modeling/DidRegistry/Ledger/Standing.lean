import DidRegistry.Ledger.Basic

/-!
# Standing of a transaction

How deep a transaction lies: the number of the highest block less that of its own block.  A
transaction is settled when it lies deep enough, and also when the ledger does not know it: then it
is in nobody's way.  A transaction that waits for its block is never settled.
-/

set_option autoImplicit false

namespace DidRegistry

/-- Where a transaction was at one point in time. -/
structure Standing where
  hash : Json
  /-- Whether the ledger knows the transaction. -/
  found : Bool
  /-- The number of its block; null when it is in none. -/
  block : Json
  /-- The number of the highest block; null when it was not asked for. -/
  head : Json
deriving DecidableEq, Repr

/-- Why there is no depth. -/
inductive DepthError where
  /-- A block, or the depth that is asked for, is no number. -/
  | wrongType
  /-- A number is out of range. -/
  | outOfRange
deriving DecidableEq, Repr

/-- The report of the error. -/
def DepthError.report : DepthError → Report
  | .wrongType => .silent .wrongType
  | .outOfRange => .silent .outOfRange

namespace Standing

/-- Whether the transaction is known and in no block. -/
def isPending (c : Standing) : Bool := c.found && c.block = .null

/-- The number of blocks on top of the block of the transaction; none when either is not known. -/
def depth? (c : Standing) : Except DepthError (Option Number) :=
  match c.block, c.head with
  | .null, _ => .ok none
  | _, .null => .ok none
  | block, head =>
    match head.number?, block.number? with
    | some h, some b =>
      match h.sub? b with
      | some n => .ok (some n)
      | none => .error .outOfRange
    | _, _ => .error .wrongType

/-- Whether the transaction is settled when `depth` blocks have to be on top of its block. -/
def isSettled (c : Standing) (depth : Json) : Except DepthError Bool :=
  if !c.found then .ok true
  else
    match c.depth? with
    | .error e => .error e
    | .ok none => .ok false
    | .ok (some n) =>
      match depth.number? with
      | some d => .ok (d.le n)
      | none => .error .wrongType

end Standing

/-- Why it is not known where a transaction is. -/
inductive StandingError where
  | lookupBroken (hash : Json) (cause : Breakdown)
  | lookupFailed (hash : Json) (error : NodeError)
  | heightBroken (hash : Json) (cause : Breakdown)
  /-- The query for the highest block failed, or has no value. -/
  | heightFailed (hash : Json) (error : Option NodeError)
  /-- What is known does not make a depth. -/
  | depth (error : DepthError)
deriving Repr

namespace StandingError

/-- The report of a failed query. -/
def failure (message : Message) (details : Json.Members) : Report :=
  .coded .confirmationQuery "CONFIRMATION_QUERY_FAILED" message details

/-- The report of the error. -/
def report : StandingError → Report
  | .lookupBroken hash b =>
    (failure (say "transaction lookup failed: " ++ b.report.message)
      [("tx_hash", hash)]).because b.report
  | .lookupFailed hash e =>
    failure (say ("transaction lookup failed: " ++ e.text))
      [("tx_hash", hash), ("rpc_code", e.code)]
  | .heightBroken hash b =>
    (failure (say "block number query failed: " ++ b.report.message)
      [("tx_hash", hash)]).because b.report
  | .heightFailed hash e =>
    let text := match e with
      | some e => e.text
      | none => Json.null.text
    failure (say ("block number query failed: " ++ text)) [("tx_hash", hash)]
  | .depth e => e.report

end StandingError

namespace Ledger

/-- Where a transaction is that is known to be in a block. -/
def standingInBlock (ledger : Ledger) (hash block : Json) :
    Dialogue (Except StandingError Standing) := do
  match ← ledger.height with
  | .error b => return .error (.heightBroken hash b)
  | .ok ⟨some head, none⟩ => return .ok ⟨hash, true, block, head⟩
  | .ok answer => return .error (.heightFailed hash answer.error)

/-- Where a transaction is. -/
def standing (ledger : Ledger) (hash : Json) : Dialogue (Except StandingError Standing) := do
  match ← ledger.transaction hash with
  | .error b => return .error (.lookupBroken hash b)
  | .ok ⟨_, some e⟩ => return .error (.lookupFailed hash e)
  | .ok ⟨none, none⟩ => return .ok ⟨hash, false, .null, .null⟩
  | .ok ⟨some t, none⟩ =>
    if t.isPending then return .ok ⟨hash, true, .null, .null⟩
    else ledger.standingInBlock hash t.block

/-- Where a transaction is, and how deep it lies. -/
def standingAndDepth (ledger : Ledger) (hash : Json) :
    Dialogue (Except StandingError (Standing × Option Number)) := do
  return (← ledger.standing hash).bind fun c => (c.depth?.mapError .depth).map fun n => (c, n)

/-- Whether a transaction is settled. -/
def isSettled (ledger : Ledger) (depth hash : Json) : Dialogue (Except StandingError Bool) := do
  return (← ledger.standing hash).bind fun c => (c.isSettled depth).mapError .depth

end Ledger

end DidRegistry
