import DidRegistry.Ledger.Dialogue

/-!
# Ledgers

A ledger takes a transaction and says what it knows: a receipt, a transaction, the number of the
highest block.  One ledger is behind a node, which gets requests and whose responses are read; the
other one answers in the library's own terms.
-/

set_option autoImplicit false

namespace DidRegistry

/-- A ledger: how a transaction is sent to it and how it is asked. -/
structure Ledger where
  send : Json → Dialogue (Attempt Json)
  receipt : Json → Dialogue (Attempt Receipt)
  transaction : Json → Dialogue (Attempt KnownTransaction)
  height : Dialogue (Attempt Json)

namespace Ledger

/-- The ledger that is called without requests. -/
def direct : Ledger where
  send tx := .call (.send tx)
  receipt hash := .call (.receipt hash)
  transaction hash := .call (.transaction hash)
  height := .call .height

/-- The members of a transaction that are quantities. -/
def quantityKeys : List String := ["value", "gas", "gasPrice", "nonce"]

/-- A transaction with one member as a quantity; numbers that are not whole stay as they are. -/
def withQuantity (tx : Json.Members) (key : String) : Except Quantity.Error Json.Members :=
  match (tx.get? key).bind Json.number? with
  | some (.real _) | none => .ok tx
  | some n => (Quantity.ofNumber n).map fun q => Json.Members.put key (.str q) tx

/-- A transaction as it is sent to a node. -/
def wireTransaction (tx : Json) : Except Breakdown Json.Members :=
  match Entries.ofJson tx with
  | .error e => .error (.transaction e)
  | .ok es => (quantityKeys.foldlM withQuantity es.toMembers).mapError .quantity

/-- The first value, unless it stands for nothing. -/
def presentOr (v : Option Json) (fallback : Json) : Json :=
  match v with
  | some x => if x.isPresent then x else fallback
  | none => fallback

/-- The number in a member of a result; null when the member is not there. -/
def quantityIn (v : Json) (key : String) : Except Quantity.ReadError Json :=
  (Quantity.read ((v.get? key).getD .null)).map Json.ofNumber?

/-- What is wrong with the result of a query. -/
inductive ResultError where
  /-- It is no object. -/
  | shapeless
  /-- The receipt has no member for its block. -/
  | noBlock
  /-- The block of the receipt is null. -/
  | nullBlock
  | quantity (error : Quantity.ReadError)
deriving DecidableEq, Repr

/-- What the error says. -/
def ResultError.message : ResultError → Text
  | .shapeless => "no object"
  | .noBlock => Text.quoted "blockNumber"
  | .nullBlock => "receipt without blockNumber"
  | .quantity e => e.text

/-- The receipt that a result gives, or what is wrong with it. -/
def receiptOf (hash v : Json) : Except ResultError Receipt :=
  match v with
  | .obj _ => do
    if (v.get? "blockNumber").isNone then throw .noBlock
    let block ← (quantityIn v "blockNumber").mapError .quantity
    if block = .null then throw .nullBlock
    let status ← (quantityIn v "status").mapError .quantity
    let gasUsed ← (quantityIn v "gasUsed").mapError .quantity
    return ⟨presentOr (v.get? "transactionHash") hash, block, (v.get? "blockHash").getD .null,
      status, gasUsed⟩
  | _ => .error .shapeless

/-- The transaction that the members of a result give, or what is wrong with it. -/
def transactionOf (hash v : Json) : Except Quantity.ReadError KnownTransaction :=
  (quantityIn v "blockNumber").map fun block =>
    ⟨presentOr (v.get? "hash") hash, block, (v.get? "from").getD .null, (v.get? "to").getD .null⟩

/-- The hash that the result of a submission is. -/
def hashAnswer (v : Json) : Answer Json :=
  if v.isString && v.isPresent then .found v
  else .failed (.internal ("eth_sendTransaction returned no hash: " ++ v.literal))

/-- The answer that the result of a query for a receipt is. -/
def receiptAnswer (hash : Json) : Json → Answer Receipt
  | .null => .nothing
  | v =>
    match receiptOf hash v with
    | .ok r => .found r
    | .error e => .failed (.internal ("bad receipt: " ++ e.message))

/-- The answer that the result of a query for a transaction is. -/
def transactionAnswer (hash : Json) : Json → Attempt KnownTransaction
  | .null => .ok .nothing
  | .obj ms =>
    match transactionOf hash (.obj ms) with
    | .ok t => .ok (.found t)
    | .error e => .ok (.failed (.internal ("bad transaction: " ++ e.text)))
  | _ => .error .shapeless

/-- The answer that the result of a query for the highest block is. -/
def heightAnswer (v : Json) : Answer Json :=
  match Quantity.read v with
  | .ok (some n) => .found (.ofNumber n)
  | .ok none => .failed (.internal "null block number")
  | .error e => .failed (.internal e.text)

/-- The result or the error of a response. -/
def readResponse (response : Except Breakdown Json) : Except Breakdown (Except NodeError Json) :=
  match response with
  | .error b => .error b
  | .ok v => (Rpc.read v).mapError .response

/-- Makes a request and reads its result. -/
def query {α : Type} (url : Text) (method : String) (params : List Json) (read : Json → Attempt α) :
    Dialogue (Attempt α) := do
  match readResponse (← Dialogue.post url method params) with
  | .error b => return .error b
  | .ok (.error e) => return .ok (.failed e)
  | .ok (.ok v) => return read v

/-- The ledger behind the node at an address. -/
def ofNode (url : Text) : Ledger where
  send tx :=
    match wireTransaction tx with
    | .error b => .done (.error b)
    | .ok wire => query url "eth_sendTransaction" [.obj wire] fun v => .ok (hashAnswer v)
  receipt hash :=
    query url "eth_getTransactionReceipt" [hash] fun v => .ok (receiptAnswer hash v)
  transaction hash := query url "eth_getTransactionByHash" [hash] (transactionAnswer hash)
  height := query url "eth_blockNumber" [] fun v => .ok (heightAnswer v)

end Ledger

end DidRegistry
