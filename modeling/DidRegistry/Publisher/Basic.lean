import DidRegistry.Settings.Basic
import DidRegistry.Ledger.Call
import DidRegistry.Ledger.CallData
import DidRegistry.Ledger.Standing

/-!
# Publishing

A payload is put into a registry call, which is sent once; then its receipt is asked for until it is
there or the polls are used up, with a sleep between two polls.  The hash of what was sent is kept as
soon as it is known: a transaction cannot be taken back, only the waiting for it can be given up.
-/

set_option autoImplicit false

namespace DidRegistry

/-- What publishes: a ledger, the account that pays, and settings. -/
structure Publisher where
  ledger : Ledger
  account : Address
  settings : PublisherSettings

/-- A call that is in a block. -/
structure Publication where
  hash : Json
  receipt : Receipt
  /-- The poll that found the receipt, counted from 1. -/
  polls : Nat
deriving DecidableEq, Repr

/-- Why nothing was published, or it is not known whether it was. -/
inductive PublishError where
  | payload (error : CallData.EncodeError)
  | call (error : RegistryCall.Error)
  | sendBroken (memo : Json) (cause : Breakdown)
  | sendFailed (memo : Json) (error : NodeError)
  /-- The call was taken, but its hash is not known. -/
  | noHash
  | receiptBroken (hash : Json) (cause : Breakdown)
  | receiptFailed (hash : Json) (error : NodeError)
  /-- The polls were used up. -/
  | timeout (hash : Json) (polls : Number)
  /-- The number of polls is not whole. -/
  | pollsNotWhole
deriving Repr

namespace PublishError

/-- The report of a submission that failed. -/
def submission (message : Message) (details : Json.Members) : Report :=
  .coded .submission "SUBMISSION_FAILED" message details

/-- The report of a poll that failed. -/
def poll (message : Message) (details : Json.Members) : Report :=
  .coded .receiptQuery "RECEIPT_QUERY_FAILED" message details

/-- The report of the error. -/
def report : PublishError → Report
  | .payload e => e.report
  | .call e => e.report
  | .sendBroken memo b =>
    (submission (say "error sending transaction: " ++ b.report.message)
      [("memo", memo)]).because b.report
  | .sendFailed memo e =>
    submission (say ("error sending transaction: " ++ e.message.text))
      [("rpc_code", e.code), ("memo", memo)]
  | .noHash => submission (say "node accepted the transaction but returned no hash") []
  | .receiptBroken hash b =>
    (poll (say "error querying receipt: " ++ b.report.message)
      [("tx_hash", hash)]).because b.report
  | .receiptFailed hash e =>
    poll (say ("error querying receipt: " ++ e.message.text))
      [("tx_hash", hash), ("rpc_code", e.code)]
  | .timeout hash polls =>
    { Report.coded .confirmationTimeout "CONFIRMATION_TIMEOUT"
        (say ("transaction " ++ hash.text ++ " not mined after " ++ String.ofList polls.literal ++
          " polls"))
        [("tx_hash", hash), ("attempts", .ofNumber polls)] with
      awaited := some (hash, .ofNumber polls) }
  | .pollsNotWhole => .silent .wrongType

end PublishError

namespace Publisher

variable [Platform]

/-- The call that publishes a payload. -/
def plan (p : Publisher) (payload : List UInt8) : Except PublishError RegistryCall :=
  match CallData.encode payload with
  | .error e => .error (.payload e)
  | .ok data =>
    (RegistryCall.plan (.str p.account.toText) p.settings.contract (.str data)
      p.settings.fees).mapError .call

/-- Sends a call, once. -/
def submit (p : Publisher) (call : RegistryCall) (memo : Json) :
    Dialogue (Except PublishError Json) := do
  match ← p.ledger.send (.obj call.toMembers) with
  | .error b => return .error (.sendBroken memo b)
  | .ok ⟨_, some e⟩ => return .error (.sendFailed memo e)
  | .ok ⟨none, none⟩ => return .error .noHash
  | .ok ⟨some hash, none⟩ => if hash.isPresent then return .ok hash else return .error .noHash

/-- Asks for the receipt `left` more times, the next poll being number `poll`; sleeps between two
polls. -/
def await (p : Publisher) (hash : Json) :
    (left : Nat) → (poll : Nat) → Dialogue (Except PublishError Publication)
  | 0, _ => .done (.error (.timeout hash p.settings.maxPolls))
  | left + 1, poll =>
    (p.ledger.receipt hash).bind fun
      | .error b => .done (.error (.receiptBroken hash b))
      | .ok ⟨_, some e⟩ => .done (.error (.receiptFailed hash e))
      | .ok ⟨some r, none⟩ => .done (.ok ⟨hash, r, poll⟩)
      | .ok ⟨none, none⟩ =>
        if left = 0 then .done (.error (.timeout hash p.settings.maxPolls))
        else .ask (.sleep p.settings.pollInterval) fun _ => p.await hash left (poll + 1)

/-- Waits for the receipt of a call that was sent. -/
def awaitAll (p : Publisher) (hash : Json) : Dialogue (Except PublishError Publication) :=
  match p.settings.maxPolls.whole? with
  | some n => p.await hash n.toNat 1
  | none => .done (.error .pollsNotWhole)

/-- Publishes a payload. -/
def publish (p : Publisher) (payload : List UInt8) (memo : Json) :
    Dialogue (Except PublishError Publication) := do
  match p.plan payload with
  | .error e => return .error e
  | .ok call =>
    match ← p.submit call memo with
    | .error e => return .error e
    | .ok hash =>
      Dialogue.remember hash
      p.awaitAll hash

/-- Whether nothing that was published before is still settling. -/
def isFree (p : Publisher) : Dialogue (Except StandingError Bool) := do
  match ← Dialogue.lastHash with
  | none => return .ok true
  | some hash => p.ledger.isSettled (.ofNumber p.settings.depth) hash

end Publisher

end DidRegistry
