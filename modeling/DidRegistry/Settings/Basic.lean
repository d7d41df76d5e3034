import DidRegistry.Settings.Fees
import DidRegistry.Json.Whole
import DidRegistry.Schema

/-!
# Settings of the publisher and of the resolver

Settings come from an object, which has to meet a schema, from the environment, whose values become
an object first, or one by one.  Only numbers that make sense are taken: at least one poll, and no
negative time, depth or fee.  An address, a contract or a timeout that is given by itself is not looked
at before it is used.
-/

set_option autoImplicit false

namespace DidRegistry

/-- Where and how operations are published. -/
structure PublisherSettings where
  /-- The address of the node. -/
  url : Json
  /-- The account of the registry contract. -/
  contract : Json
  fees : Fees
  /-- How often the receipt is asked for. -/
  maxPolls : Number
  /-- Seconds between two polls. -/
  pollInterval : Number
  /-- How many blocks have to be on top of a write before the next one. -/
  depth : Number
  /-- Seconds that a request may take. -/
  timeout : Json
deriving DecidableEq, Repr

/-- Where histories are read. -/
structure ResolverSettings where
  url : Json
  /-- Seconds that a request may take. -/
  timeout : Number
deriving DecidableEq, Repr

/-- How a value of the environment becomes a setting. -/
inductive SettingKind where
  | text
  | whole
  | decimal
deriving DecidableEq, Repr

namespace Setting

/-- The polls that are made unless another number is set. -/
def defaultPolls : Number := .int 5

/-- The seconds between polls unless another time is set. -/
def defaultInterval : Number := .real (Binary64.ofInt 5)

/-- The depth that is waited for unless another one is set. -/
def defaultDepth : Number := .int 3

/-- The seconds that a request may take unless another time is set. -/
def defaultTimeout : Number := .real (Binary64.ofInt 30)

/-- A hexadecimal digit of either case. -/
def isHexDigit (c : Char) : Bool := (Text.hexDigit? c).isSome

/-- `0x` and forty hexadecimal digits; one line feed may follow. -/
def fitsContract : List Char → Bool
  | '0' :: 'x' :: r =>
    let digits := r.take 40
    digits.length == 40 && digits.all isHexDigit && (r.drop 40 == [] || r.drop 40 == ['\n'])
  | _ => false

/-- The pattern of a contract account. -/
def contractPattern : Pattern := ⟨"^0x[0-9a-fA-F]\x7b40\x7d$", fitsContract⟩

/-- What the settings of a publisher look like. -/
def publisherSchema : Schema :=
  .object ["rpc_url", "contract_address"] true
    [("rpc_url", .string .nonEmpty),
      ("contract_address", .string (.pattern contractPattern)),
      ("fee_price", .integer (.least 0)),
      ("fee_limit", .integer (.least 21000)),
      ("max_wait_attempts", .integer (.least 1)),
      ("wait_interval", .number (.least 0)),
      ("wait_for_confirms", .integer (.least 0)),
      ("rpc_timeout", .number (.above 0))]

/-- What the settings of a resolver look like. -/
def resolverSchema : Schema :=
  .object ["resolver_url"] true
    [("resolver_url", .string .nonEmpty), ("rpc_timeout", .number (.above 0))]

/-- The settings of a publisher in the environment. -/
def publisherFields : List (String × SettingKind) :=
  [("rpc_url", .text), ("contract_address", .text), ("fee_price", .whole), ("fee_limit", .whole),
    ("max_wait_attempts", .whole), ("wait_interval", .decimal), ("wait_for_confirms", .whole),
    ("rpc_timeout", .decimal)]

/-- The settings of a resolver in the environment. -/
def resolverFields : List (String × SettingKind) :=
  [("resolver_url", .text), ("rpc_timeout", .decimal)]

/-- The members of settings that meet the schema. -/
def check (schema : Schema) (what : String) (v : Json) : Except SettingsError Json.Members :=
  match Entries.ofJson v with
  | .error e => .error (.notAMapping e)
  | .ok es =>
    match schema.firstFaultOf es with
    | none => .ok es.members
    | some f => .error (.unfit what (f.place ".") f.reason.message)

/-- A setting that has to be there. -/
def required (ms : Json.Members) (key : String) : Except SettingsError Json :=
  match ms.get? key with
  | some v => .ok v
  | none => .error .wrongType

/-- A setting as a binary number. -/
def binary (n : Number) : Except SettingsError Number :=
  match n.toReal? with
  | some x => .ok (.real x)
  | none => .error .tooLarge

/-- The value of a written decimal. -/
def decimalValue : Text.Numeral.Written → Binary64
  | .finite negative digits exponent => .ofDecimal negative digits exponent
  | .infinity negative => .infinity negative
  | .nan => .nan

/-- The value of a setting in the environment, which gives it as `raw`. -/
def ofEnvironment (name : String) (kind : SettingKind) (raw : Json) : Except SettingsError Json :=
  match kind with
  | .text => .ok (.str raw.text)
  | .whole =>
    match raw.toWhole with
    | .ok n => .ok (.int n)
    | .error .wrongType => .error .wrongType
    | .error .infinite => .error .tooLarge
    | .error e => .error (.notANumber name "int" raw e.report)
  | .decimal =>
    match raw with
    | .str t =>
      match Text.Numeral.written? t with
      | some w => .ok (.real (decimalValue w))
      | none => .error (.notANumber name "float" raw (.silent .value))
    | v =>
      match v.number? with
      | some n => (binary n).map Json.ofNumber
      | none => .error .wrongType

/-- The name of a setting in the environment. -/
def environmentName (key : String) : String :=
  "IDCHAIN_" ++ String.ofList (key.toList.map Char.toUpper)

/-- The settings that the environment holds, in the order of the fields. -/
def collect (environment : Json.Members) :
    List (String × SettingKind) → Except SettingsError Json.Members
  | [] => .ok []
  | (key, kind) :: fields =>
    let name := environmentName key
    match (environment.get? name).getD .null with
    | .null => collect environment fields
    | raw =>
      match ofEnvironment name kind raw with
      | .error e => .error e
      | .ok v => (collect environment fields).map fun ms => (Text.ofString key, v) :: ms

/-- The variables of an environment; null is an environment without any. -/
def environmentOf : Json → Except SettingsError Json.Members
  | .null => .ok []
  | .obj ms => .ok ms
  | _ => .error .notAnObject

end Setting

namespace PublisherSettings

open Setting

/-- Refuses numbers that make no sense. -/
def checked (c : PublisherSettings) : Except SettingsError PublisherSettings :=
  if c.maxPolls.lt (.int 1) then .error (.maxPolls c.maxPolls)
  else if c.pollInterval.lt (.int 0) then .error (.pollInterval c.pollInterval)
  else if c.depth.lt (.int 0) then .error (.depth c.depth)
  else .ok c

/-- The most seconds that one write may sleep; none when the number is out of range. -/
def maxWait? (c : PublisherSettings) : Option Number :=
  (c.maxPolls.sub? (.int 1)).bind fun n => n.mul? c.pollInterval

/-- The settings that members give which meet the schema; times become binary numbers. -/
def ofMembers (ms : Json.Members) : Except SettingsError PublisherSettings := do
  let fees ← Fees.make (← numberSetting ms "fee_price" Fees.defaultPrice)
    (← numberSetting ms "fee_limit" Fees.defaultLimit)
  let url ← required ms "rpc_url"
  let contract ← required ms "contract_address"
  let maxPolls ← numberSetting ms "max_wait_attempts" defaultPolls
  let pollInterval ← binary (← numberSetting ms "wait_interval" defaultInterval)
  let depth ← numberSetting ms "wait_for_confirms" defaultDepth
  let timeout ← binary (← numberSetting ms "rpc_timeout" defaultTimeout)
  checked ⟨url, contract, fees, maxPolls, pollInterval, depth, .ofNumber timeout⟩

/-- The settings that an object gives.  Another mapping is held against the schema too, but gives no
settings. -/
def ofJson (v : Json) : Except SettingsError PublisherSettings := do
  let ms ← check publisherSchema "publisher" v
  match v with
  | .obj _ => ofMembers ms
  | _ => throw .notAnObject

/-- The settings that the environment gives. -/
def ofEnvironment (environment : Json) : Except SettingsError PublisherSettings := do
  ofJson (.obj (← collect (← environmentOf environment) publisherFields))

/-- The names of the settings that are given one by one. -/
def settingNames : List String :=
  ["rpc_url", "contract_address", "fee_policy", "max_wait_attempts", "wait_interval",
    "wait_for_confirms", "rpc_timeout"]

/-- The fees among settings that are given one by one. -/
def feesOf (ms : Json.Members) : Except SettingsError Fees :=
  match ms.get? "fee_policy" with
  | none => .ok ⟨Fees.defaultPrice, Fees.defaultLimit⟩
  | some fees => Fees.ofSettings fees

/-- The settings given one by one; they meet no schema, only their numbers are looked at. -/
def ofSettings (v : Json) : Except SettingsError PublisherSettings := do
  match v with
  | .obj ms =>
    let fees ← feesOf ms
    if !onlyKnown settingNames ms then throw .wrongType
    let url ← required ms "rpc_url"
    let contract ← required ms "contract_address"
    let maxPolls ← numberSetting ms "max_wait_attempts" defaultPolls
    if maxPolls.lt (.int 1) then throw (.maxPolls maxPolls)
    let pollInterval ← numberSetting ms "wait_interval" defaultInterval
    if pollInterval.lt (.int 0) then throw (.pollInterval pollInterval)
    let depth ← numberSetting ms "wait_for_confirms" defaultDepth
    let timeout := (Json.Members.get? ms "rpc_timeout").getD (.ofNumber defaultTimeout)
    checked ⟨url, contract, fees, maxPolls, pollInterval, depth, timeout⟩
  | _ => throw .wrongType

end PublisherSettings

namespace ResolverSettings

open Setting

/-- The settings that an object gives.  Another mapping is held against the schema too, but gives no
settings. -/
def ofJson (v : Json) : Except SettingsError ResolverSettings := do
  let ms ← check resolverSchema "resolver" v
  match v with
  | .obj _ =>
    let url ← required ms "resolver_url"
    let timeout ← binary (← numberSetting ms "rpc_timeout" defaultTimeout)
    return ⟨url, timeout⟩
  | _ => throw .wrongType

/-- The settings that the environment gives. -/
def ofEnvironment (environment : Json) : Except SettingsError ResolverSettings := do
  ofJson (.obj (← collect (← environmentOf environment) resolverFields))

end ResolverSettings

end DidRegistry
