import DidRegistry.Identifier
import DidRegistry.Operation.Basic
import DidRegistry.Operation.Variety
import DidRegistry.Schema
import DidRegistry.Time.Reader

/-!
# Entries of a biography

An operation as the ledger holds it: the subject it is about, the hash and the time of its
transaction.  An entry is read by form first, `ofJson`, and then checked against its subject and
against what subjects of its variety may do, `check`.
-/

set_option autoImplicit false

namespace DidRegistry

/-- An operation on the ledger. -/
structure Entry where
  /-- The subject, null where none is said; anything but a text is refused in the end. -/
  subject : Json
  txid : Text
  timestamp : Timestamp
  operation : Operation Text
deriving DecidableEq, Repr

/-- Why a payload does not suit its subject. -/
inductive PayloadFault where
  | unreadable (error : Payload.Error)
  /-- The document names another subject. -/
  | otherDocument (declared : Json)
  /-- The text is not the subject. -/
  | otherText (text : List Char)
deriving DecidableEq, Repr

/-- The report of the fault. -/
def PayloadFault.report : PayloadFault → Report
  | .unreadable e => e.report
  | .otherDocument v =>
    .plain .value (say ("document id " ++ v.literal ++ " does not match subject"))
  | .otherText cs =>
    .plain .value (say ("payload " ++ (Text.ofChars cs).quoted ++ " does not name the subject"))

/-- Why an entry is refused. -/
inductive EntryError where
  /-- It does not meet the schema. -/
  | unfit (path reason : String)
  | timestamp (text : Text)
  /-- Its timestamp has no zone. -/
  | zoneless (text : Text)
  | txid (txid : Text)
  | otherSubject (txid : Text) (own expected : Json)
  /-- Its time is known without a zone only. -/
  | naive (txid : Text)
  | specification (given : Text) (expected : String)
  | kind (given : Text) (specification : String)
  | payload (txid : Text) (fault : PayloadFault)
  | unsigned (txid : Text)
  | methodless (txid : Text)
  | method (txid method : Text) (error : IdentifierError)
  /-- Its operation cannot be taken apart. -/
  | operation (error : OperationError)
  /-- The subject is neither a text nor a collection. -/
  | subjectless
deriving DecidableEq, Repr

namespace EntryError

/-- The report of a refusal with a message alone. -/
def refusal (message : Message) : Report :=
  .coded .malformedTransaction "MALFORMED_TRANSACTION" message []

/-- The report of the error. -/
def report : EntryError → Report
  | .unfit path reason =>
    (Report.coded .malformedTransaction "MALFORMED_TRANSACTION"
      (say ("invalid transaction at " ++ path ++ ": " ++ reason)) [("path", .str path)]).because
        (.silent .schema)
  | .timestamp s => (refusal (say ("invalid timestamp: " ++ Text.quoted s))).because (.silent .value)
  | .zoneless s => refusal (say ("timestamp has no timezone: " ++ Text.quoted s))
  | .txid s => refusal (say ("invalid txid: " ++ Text.quoted s))
  | .otherSubject hash own expected =>
    (refusal (say ("transaction " ++ hash ++ " belongs to " ++ own.literal ++ ", not " ++
      expected.literal))).showing [own, expected]
  | .naive hash => refusal (say ("transaction " ++ hash ++ " has a naive timestamp"))
  | .specification given wanted =>
    refusal (say ("unsupported specification " ++ given.quoted ++ " (expected " ++
      Text.quoted wanted ++ ")"))
  | .kind given rules =>
    refusal (say ("unknown operation " ++ Text.quoted given ++ " for " ++ rules))
  | .payload hash fault =>
    if fault = .unreadable (.json .tooDeep) then fault.report
    else
      (refusal (say ("transaction " ++ hash ++ " has an undecodable payload: ") ++
        fault.report.message)).because fault.report
  | .unsigned hash => refusal (say ("transaction " ++ hash ++ " has no signature"))
  | .methodless hash => refusal (say ("transaction " ++ hash ++ " has no verification method"))
  | .method hash name e =>
    ((refusal (say ("transaction " ++ hash ++ " has an invalid verification method: " ++
      Text.quoted name))).because e.report).showing e.shown
  | .operation e => e.report
  | .subjectless => .silent .wrongType

/-- Whether the entry is to blame: what else goes wrong is reported as it is. -/
def isRefusal : EntryError → Bool
  | .payload _ fault => fault ≠ .unreadable (.json .tooDeep)
  | .otherSubject _ own expected => own.allShort && expected.allShort
  | .method _ _ e => e.isShown
  | .operation _ | .subjectless => false
  | _ => true

end EntryError

namespace Entry

/-- What a header looks like. -/
def headerSchema : Schema :=
  .object ["specification", "operation"] false
    [("specification", .string .any), ("operation", .string .any), ("previousTxid", .string .any)]

/-- What a proof looks like. -/
def proofSchema : Schema :=
  .object ["verificationMethod", "signature"] false
    [("type", .string .any), ("verificationMethod", .string .any), ("signature", .string .any)]

/-- What a transaction looks like. -/
def schema : Schema :=
  .object ["txid", "timestamp", "operation"] false
    [("txid", .string .nonEmpty), ("timestamp", .string .nonEmpty),
      ("operation", .object ["header", "payload", "proof"] false
        [("header", headerSchema), ("payload", .string .any), ("proof", proofSchema)])]

/-- A time with a zone. -/
def readTime (text : Text) : Except EntryError Timestamp :=
  match Timestamp.ofText? text with
  | none => .error (.timestamp text)
  | some t => if t.hasZone then .ok t else .error (.zoneless text)

/-- The entry of a subject that a value gives. -/
def ofJson (v subject : Json) : Except EntryError Entry :=
  match schema.firstFault v with
  | some f => .error (.unfit (f.place "/") f.reason.message)
  | none =>
    match readTime ((v.get? "timestamp").getD .null).text with
    | .error e => .error e
    | .ok t =>
      match Operation.ofJson ((v.get? "operation").getD .null) with
      | .ok op => .ok ⟨subject, ((v.get? "txid").getD .null).text, t, op.map Json.text⟩
      | .error e => .error (.operation e)

/-- The entry as a value. -/
def toJson (r : Entry) : Except Timestamp.WireError Json :=
  r.timestamp.wireText.map fun t =>
    .obj [("txid", .str r.txid), ("timestamp", .str t), ("operation", r.operation.toValues.toJson)]

/-- Sixty-four hexadecimal digits; one line feed may follow. -/
def isHash (s : List Char) : Bool :=
  (s.take 64).length == 64 && (s.take 64).all (fun c => (Text.hexDigit? c).isSome) &&
    (s.drop 64 == [] || s.drop 64 == ['\n'])

/-- A transaction hash with or without `0x` in front. -/
def isTxid (s : List Char) : Bool :=
  isHash s || (match s with
    | '0' :: 'x' :: r => isHash r
    | _ => false)

/-- Refuses a payload that does not suit the subject. -/
def checkPayload [Platform] (r : Entry) (variety : Variety) (subject : Json) :
    Except PayloadFault Unit :=
  match Payload.bytes r.operation.payload with
  | .error e => .error (.unreadable e)
  | .ok bytes =>
    if variety.carriesDocument r.operation.kind then
      match Payload.objectOf bytes with
      | .error e => .error (.unreadable e)
      | .ok ms =>
        let declared := (ms.get? "id").getD .null
        if variety = .did ∧ !declared.equals subject then .error (.otherDocument declared)
        else .ok ()
    else
      match Payload.textOf bytes with
      | .error e => .error (.unreadable e)
      | .ok cs => if subject = .str (Text.ofChars cs) then .ok () else .error (.otherText cs)

/-- Whether a subject holds the mark of a DID URL; none for what holds nothing. -/
def holdsMark? : Json → Option Bool
  | .str s => some (s.chars.contains '#')
  | .arr items => some (items.any fun v => v.equals (.str "#"))
  | .obj ms => some (ms.any fun m => m.1 = Text.ofString "#")
  | _ => none

/-- The DID that verification methods are relative to: the subject, or that of the DID URL which
the subject is. -/
def baseDid (subject : Json) (isUrl : Bool) : Except IdentifierError Did :=
  if isUrl then (DidUrl.parse subject none).map (·.did) else Did.parse subject

/-- Refuses a proof without a signature or without a verification method that can be named. -/
def checkProof (r : Entry) (subject : Json) : Except EntryError Unit :=
  if r.operation.signature.isEmpty then .error (.unsigned r.txid)
  else if r.operation.method.isEmpty then .error (.methodless r.txid)
  else
    match holdsMark? subject with
    | none => .error .subjectless
    | some isUrl =>
      match (baseDid subject isUrl).bind fun base => DidUrl.parse (.str r.operation.method) (some base) with
      | .error e => .error (.method r.txid r.operation.method e)
      | .ok _ => .ok ()

/-- Refuses an entry that does not suit its subject and variety. -/
def check [Platform] (r : Entry) (variety : Variety) (subject : Json) :
    Except EntryError Unit :=
  if !isTxid r.txid.chars then .error (.txid r.txid)
  else if !r.subject.equals subject then .error (.otherSubject r.txid r.subject subject)
  else if !r.timestamp.hasZone then .error (.naive r.txid)
  else if r.operation.specification ≠ variety.specification then
    .error (.specification r.operation.specification variety.specification)
  else if !variety.knows r.operation.kind then
    .error (.kind r.operation.kind variety.specification)
  else
    match r.checkPayload variety subject with
    | .error fault => .error (.payload r.txid fault)
    | .ok _ => r.checkProof subject

end Entry

end DidRegistry
