import DidRegistry.Json.Entries
import DidRegistry.Json.Literal
import DidRegistry.Report

/-!
# Fees

What a registry call may cost: a price for a unit of work and a limit to the number of units.
-/

set_option autoImplicit false

namespace DidRegistry

/-- Why settings do not fit. -/
inductive SettingsError where
  /-- The price of a unit is negative. -/
  | feePrice (given : Number)
  /-- The limit leaves no unit. -/
  | feeLimit (given : Number)
  /-- There would be no poll for a receipt. -/
  | maxPolls (given : Number)
  /-- The time between two polls is negative. -/
  | pollInterval (given : Number)
  /-- The required depth is negative. -/
  | depth (given : Number)
  /-- A value has a fault at a path. -/
  | unfit (what path reason : String)
  /-- A setting of the environment is no number of its kind. -/
  | notANumber (name kind : String) (raw : Json) (cause : Report)
  /-- A setting is unknown, missing or of the wrong type. -/
  | wrongType
  /-- What is given is no object. -/
  | notAnObject
  /-- What is given is no mapping at all. -/
  | notAMapping (error : EntriesError)
  /-- A whole number is too large to be a binary number. -/
  | tooLarge
deriving Repr

namespace SettingsError

/-- The report of unfit settings. -/
def unfitReport (message : String) (details : Json.Members) : Report :=
  .coded .config "CONFIG_INVALID" (say message) details

/-- What is said of a number that misses its bound. -/
def boundReport (name bound : String) (given : Number) : Report :=
  (unfitReport (name ++ " must be " ++ bound ++ ", got: " ++ String.ofList given.literal) []).showing
    [.ofNumber given]

/-- The report of the error. -/
def report : SettingsError → Report
  | .feePrice n => boundReport "fee_price" ">= 0" n
  | .feeLimit n => boundReport "fee_limit" "> 0" n
  | .maxPolls n => boundReport "max_wait_attempts" ">= 1" n
  | .pollInterval n => boundReport "wait_interval" ">= 0" n
  | .depth n => boundReport "wait_for_confirms" ">= 0" n
  | .unfit what path reason =>
    (unfitReport ("invalid " ++ what ++ " config at " ++ path ++ ": " ++ reason)
      [("path", .str path)]).because (.silent .schema)
  | .notANumber name kind raw cause =>
    (unfitReport (name ++ " is not a valid " ++ kind ++ ": " ++ raw.literal) []).because cause
  | .wrongType => .silent .wrongType
  | .notAnObject => .silent .noSuchOperation
  | .notAMapping e => e.report
  | .tooLarge => .silent .outOfRange

end SettingsError

/-- The price of a unit of work and the limit to the number of units. -/
structure Fees where
  price : Number
  limit : Number
deriving DecidableEq, Repr

namespace Fees

/-- The price that is paid unless another one is set. -/
def defaultPrice : Number := .int 1000000000000

/-- The limit that holds unless another one is set. -/
def defaultLimit : Number := .int 3000000

/-- The fee policy with a price and a limit, if they make sense. -/
def make (price limit : Number) : Except SettingsError Fees :=
  if price.lt (.int 0) then .error (.feePrice price)
  else if limit.le (.int 0) then .error (.feeLimit limit)
  else .ok ⟨price, limit⟩

end Fees

/-- The number that a setting holds, or `default` when it is not set. -/
def numberSetting (ms : Json.Members) (key : String) (default : Number) :
    Except SettingsError Number :=
  match ms.get? key with
  | none => .ok default
  | some v =>
    match v.number? with
    | some n => .ok n
    | none => .error .wrongType

/-- Whether every setting has one of the given names. -/
def onlyKnown (known : List String) (ms : Json.Members) : Bool :=
  ms.all fun m => known.any fun k => m.1 = k

/-- The fee policy with the settings as they are given. -/
def Fees.ofSettings (v : Json) : Except SettingsError Fees :=
  match v with
  | .obj ms =>
    if !onlyKnown ["fee_price", "fee_limit"] ms then .error .wrongType
    else
      match numberSetting ms "fee_price" defaultPrice with
      | .error e => .error e
      | .ok price =>
        if price.lt (.int 0) then .error (.feePrice price)
        else
          match numberSetting ms "fee_limit" defaultLimit with
          | .error e => .error e
          | .ok limit => make price limit
  | _ => .error .wrongType

end DidRegistry
