import DidRegistry.Settings.Fees
import DidRegistry.Ledger.Address

/-!
# Registry calls

The transaction that writes an operation: from an account to the contract, with call data and fees,
and moving no value.  The node numbers it and signs for its sender.
-/

set_option autoImplicit false

namespace DidRegistry

/-- An unsigned call of the registry contract. -/
structure RegistryCall where
  sender : Address
  contract : Address
  data : Text
  fees : Fees
deriving DecidableEq, Repr

namespace RegistryCall

/-- Why there is no call. -/
inductive Error where
  | sender (value : Json)
  | contract (value : Json)
  /-- The data are not `0x` and something more. -/
  | noData
  /-- The data are no text. -/
  | dataNotText
deriving DecidableEq, Repr

/-- The report of the error. -/
def Error.report : Error → Report
  | .sender v =>
    (Report.plain .value (say ("sender must be a valid address, got: " ++ v.literal))).showing [v]
  | .contract v =>
    (Report.plain .value
      (say ("contract_address must be a valid address, got: " ++ v.literal))).showing [v]
  | .noData => .plain .value (say "data must be non-empty 0x-prefixed hex")
  | .dataNotText => .silent .noSuchOperation

/-- The data that a value gives: `0x` and at least one more character. -/
def dataOf : Json → Except Error Text
  | .str t =>
    match t.chars with
    | '0' :: 'x' :: _ :: _ => .ok t
    | _ => .error .noData
  | v => if v.isPresent then .error .dataNotText else .error .noData

/-- The call between two accounts with data and fees. -/
def plan [Platform] (sender contract data : Json) (fees : Fees) : Except Error RegistryCall :=
  match Address.ofJson? sender with
  | none => .error (.sender sender)
  | some caller =>
    match Address.ofJson? contract with
    | none => .error (.contract contract)
    | some callee => (dataOf data).map fun d => ⟨caller, callee, d, fees⟩

/-- The call as a transaction object with plain numbers. -/
def toMembers (c : RegistryCall) : Json.Members :=
  [("from", .str c.sender.toText), ("to", .str c.contract.toText), ("value", .int 0),
    ("data", .str c.data), ("gasPrice", .ofNumber c.fees.price), ("gas", .ofNumber c.fees.limit)]

end RegistryCall

end DidRegistry
