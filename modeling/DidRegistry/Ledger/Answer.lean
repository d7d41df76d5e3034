import DidRegistry.Json.Entries
import DidRegistry.Ledger.Quantity
import DidRegistry.Ledger.Rpc

/-!
# What a ledger answers

A receipt of a transaction that is in a block, a transaction that is known, the number of the highest
block.  An answer holds a value or an error or neither: neither means that there is nothing yet.
A call may also break down, so that there is no answer.
-/

set_option autoImplicit false

namespace DidRegistry

/-- The receipt of a transaction in a block.  Its fields are values as the ledger gives them, null where
it gives none; a node gives hashes and numbers. -/
structure Receipt where
  hash : Json
  /-- The number of the block. -/
  block : Json
  blockHash : Json
  /-- Zero when the call was undone. -/
  status : Json
  gasUsed : Json
deriving DecidableEq, Repr

/-- Whether the call of the transaction was undone. -/
def Receipt.isReverted (r : Receipt) : Bool := r.status.equals (.int 0)

/-- A transaction that the ledger knows; its fields are values as the ledger gives them. -/
structure KnownTransaction where
  hash : Json
  /-- The number of its block; null while it waits. -/
  block : Json
  sender : Json
  recipient : Json
deriving DecidableEq, Repr

/-- Whether the transaction is in no block yet. -/
def KnownTransaction.isPending (t : KnownTransaction) : Bool := t.block = .null

/-- An answer of the ledger. -/
structure Answer (α : Type) where
  value : Option α := none
  error : Option NodeError := none
deriving DecidableEq, Repr

namespace Answer

/-- An answer with a value. -/
def found {α : Type} (a : α) : Answer α := ⟨some a, none⟩

/-- An answer that there is nothing yet. -/
def nothing {α : Type} : Answer α := ⟨none, none⟩

/-- An answer that is an error. -/
def failed {α : Type} (e : NodeError) : Answer α := ⟨none, some e⟩

end Answer

/-- Why a call has no answer. -/
inductive Breakdown where
  /-- The exchange failed, as it is reported. -/
  | exchange (failure : Report)
  | response (error : Rpc.ResponseError)
  /-- The result is no object. -/
  | shapeless
  /-- What is to be sent is no object. -/
  | transaction (error : EntriesError)
  /-- A number of the call has no quantity. -/
  | quantity (error : Quantity.Error)
deriving Repr

/-- The report of a breakdown. -/
def Breakdown.report : Breakdown → Report
  | .exchange failure => failure
  | .response e => e.report
  | .shapeless => .silent .noSuchOperation
  | .transaction e => e.report
  | .quantity e => e.report

/-- What a call comes back with. -/
abbrev Attempt (α : Type) := Except Breakdown (Answer α)

end DidRegistry
