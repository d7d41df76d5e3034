import DidRegistry.Biography.Entry

/-!
# Biographies

The history of a subject: its transactions, the earliest first, and its status.  A biography is read
from a value by `ofJson` and handed out only after `check`: its subject is an identifier of the right
kind, it has transactions exactly when the subject is found, every entry suits the subject, none counts
as earlier than the one before it, and an entry that names the transaction it follows names the one
before it.
-/

set_option autoImplicit false

namespace DidRegistry

/-- The history and the status of a subject. -/
structure Biography where
  variety : Variety
  /-- What the history is about, null if that is not said. -/
  subject : Json
  status : Status
  entries : List Entry
deriving DecidableEq, Repr

/-- Why a value is no status. -/
inductive StatusError where
  | notWhole (value : Json)
  /-- It is the code that is not used. -/
  | reserved
  | unknown
deriving DecidableEq, Repr

/-- The report of the error. -/
def StatusError.report : StatusError → Report
  | .notWhole v =>
    (Report.plain .value (say ("status must be an integer, got: " ++ v.literal))).showing [v]
  | .reserved => .plain .value (say "status code 1 is reserved")
  | .unknown => .silent .value

/-- The status that a value on the wire gives. -/
def Status.ofJson : Json → Except StatusError Status
  | .int n =>
    if n = reservedCode then .error .reserved
    else
      match ofCode? n with
      | some s => .ok s
      | none => .error .unknown
  | v => .error (.notWhole v)

/-- The status whose code equals a value. -/
def Status.ofValue (v : Json) : Except StatusError Status :=
  match v.number? with
  | none => .error .unknown
  | some n =>
    match [Status.valid, .ended, .notFound].find? fun s => n.equals (.int s.code) with
    | some s => .ok s
    | none => .error .unknown

/-- Why a biography is refused. -/
inductive BiographyError where
  /-- The value is no object. -/
  | notAnObject (value : Json)
  | noSubject
  /-- The subject is no text. -/
  | subjectNotText (value : Json)
  | badSubject (subject : Json) (error : IdentifierError)
  | noStatus (subject : Json)
  | badStatus (subject : Json) (value : Json) (error : StatusError)
  | notAList (subject : Json)
  /-- An entry cannot be read. -/
  | unreadable (subject : Json) (index : Nat) (error : EntryError)
  /-- An entry does not suit the subject. -/
  | unsuitable (subject : Json) (index : Nat) (txid : Text) (error : EntryError)
  /-- A subject that is not found has transactions. -/
  | unexpected (subject : Json)
  /-- A subject that is found has none. -/
  | empty (subject : Json)
  | disorder (subject : Json) (index : Nat) (txid : Text)
  | brokenChain (subject : Json) (index : Nat) (previous expected : Text)
  /-- The answer is about another subject than the question. -/
  | otherSubject (answered : Json) (asked : Text)
  /-- The latest document cannot be read. -/
  | badDocument (subject : Json) (txid : Text) (cause : Report)
  /-- No operation carries a document. -/
  | noDocument (subject : Json)
deriving Repr

namespace BiographyError

/-- The report of a refusal. -/
def refusal (message : Text) (details : Json.Members) : Report :=
  .coded .malformedBiography "MALFORMED_BIOGRAPHY" (say message) details

/-- The report of the error. -/
def report [Platform] : BiographyError → Report
  | .notAnObject v => refusal ("biography must be an object, got: " ++ v.kindName) []
  | .noSubject => refusal "missing id" []
  | .subjectNotText v =>
    (refusal ("invalid id: " ++ v.literal) []).showingWithin Platform.showRoom [v]
  | .badSubject s e =>
    ((refusal ("invalid id: " ++ s.literal) [("id", s)]).because e.report).showing [s]
  | .noStatus s => refusal "missing status" [("id", s)]
  | .badStatus s v e =>
    ((refusal ("invalid status: " ++ v.literal) [("id", s)]).because e.report).showingWithin
      Platform.showRoom [v]
  | .notAList s => refusal "transaction must be an array" [("id", s)]
  | .unreadable s index e =>
    (refusal "invalid transaction" [("id", s), ("index", .int index)]).because e.report
  | .unsuitable s index txid e =>
    if e.isRefusal then
      (refusal "invalid transaction"
        [("id", s), ("index", .int index), ("txid", .str txid)]).because e.report
    else e.report
  | .unexpected s => refusal "should not include transaction" [("id", s)]
  | .empty s => refusal "missing transaction" [("id", s)]
  | .disorder s index txid =>
    refusal "transactions out of order" [("id", s), ("index", .int index), ("txid", .str txid)]
  | .brokenChain s index previous expected =>
    refusal "broken transaction chain"
      [("id", s), ("index", .int index), ("previous_txid", .str previous),
        ("expected", .str expected)]
  | .otherSubject answered asked =>
    refusal ("resolver answered for " ++ answered.literal ++ ", asked for " ++
      Text.quoted asked) []
  | .badDocument s txid cause =>
    if cause.kind = .tooDeep then cause
    else
      (refusal ("transaction " ++ txid ++ " carries an unreadable document")
        [("id", s), ("txid", .str txid)]).because cause
  | .noDocument s => refusal "biography has no document operation" [("id", s)]

end BiographyError

namespace Biography

/-- The most recent transaction. -/
def latest? (b : Biography) : Option Entry := b.entries.getLast?

/-- The status that a history implies. -/
def impliedStatus (variety : Variety) (entries : List Entry) : Status :=
  match entries.getLast? with
  | none => .notFound
  | some r => if r.operation.kind = Text.ofString variety.terminalKind then .ended else .valid

/-- The identifier of the right kind that a subject is, as a text. -/
def identifierOf (variety : Variety) (subject : Json) : Except IdentifierError String :=
  match variety with
  | .did => (Did.parse subject).map Did.toText
  | .credential => (DidUrl.parse subject none).map DidUrl.toText

/-- Refuses entries that do not suit the subject; the first has the number `index`. -/
def checkEntries [Platform] (variety : Variety) (subject : Json) :
    (index : Nat) → List Entry → Except BiographyError Unit
  | _, [] => .ok ()
  | index, r :: rs =>
    match r.check variety subject with
    | .error e => .error (.unsuitable subject index r.txid e)
    | .ok _ => checkEntries variety subject (index + 1) rs

/-- Refuses an entry that does not come after the one before it. -/
def checkStep (subject : Json) (index : Nat) (before r : Entry) :
    Except BiographyError Unit :=
  if r.timestamp.isBefore before.timestamp then .error (.disorder subject index r.txid)
  else
    match r.operation.previous with
    | none => .ok ()
    | some previous =>
      if previous ≠ before.txid then .error (.brokenChain subject index previous before.txid)
      else .ok ()

/-- Refuses entries that are not in order; the second has the number `index`. -/
def checkOrder (subject : Json) :
    (index : Nat) → List Entry → Except BiographyError Unit
  | index, before :: r :: rs =>
    match checkStep subject index before r with
    | .error e => .error e
    | .ok _ => checkOrder subject (index + 1) (r :: rs)
  | _, _ => .ok ()

/-- Refuses a biography that is not well formed. -/
def check [Platform] (b : Biography) : Except BiographyError Unit :=
  if !b.subject.isPresent then .error .noSubject
  else
    match identifierOf b.variety b.subject with
    | .error e => .error (.badSubject b.subject e)
    | .ok _ =>
      if b.status = .notFound then
        if b.entries.isEmpty then .ok () else .error (.unexpected b.subject)
      else if b.entries.isEmpty then .error (.empty b.subject)
      else
        match checkEntries b.variety b.subject 0 b.entries with
        | .error e => .error e
        | .ok _ => checkOrder b.subject 1 b.entries

/-- The biography, unless it is not well formed. -/
def checked [Platform] (b : Biography) : Except BiographyError Biography :=
  b.check.map fun _ => b

/-- The entries that values give; the first has the number `index`. -/
def readEntries (subject : Json) :
    (index : Nat) → List Json → Except BiographyError (List Entry)
  | _, [] => .ok []
  | index, v :: vs =>
    match Entry.ofJson v subject with
    | .error e => .error (.unreadable subject index e)
    | .ok r => (readEntries subject (index + 1) vs).map (r :: ·)

/-- The subject that the members of a biography name. -/
def subjectOf (variety : Variety) (v : Json) : Except BiographyError Json :=
  let subject := (v.get? variety.subjectKey).getD .null
  if !subject.isPresent then .error .noSubject
  else
    match subject with
    | .str s => .ok (.str s)
    | x => .error (.subjectNotText x)

/-- The status that the members of a biography give. -/
def statusOf (subject : Json) (v : Json) : Except BiographyError Status :=
  match v.get? "status" with
  | none => .error (.noStatus subject)
  | some code =>
    match Status.ofJson code with
    | .ok s => .ok s
    | .error e => .error (.badStatus subject code e)

/-- The values of the transactions that the members of a biography list. -/
def entriesOf (subject : Json) (v : Json) : Except BiographyError (List Json) :=
  match (v.get? "transaction").getD .null with
  | .null => .ok []
  | .arr items => .ok items
  | _ => .error (.notAList subject)

/-- The well formed biography that a value gives. -/
def ofJson [Platform] (variety : Variety) (v : Json) : Except BiographyError Biography :=
  match v with
  | .obj _ => do
    let subject ← subjectOf variety v
    let status ← statusOf subject v
    let entries ← readEntries subject 0 (← entriesOf subject v)
    checked ⟨variety, subject, status, entries⟩
  | _ => .error (.notAnObject v)

/-- The biography as a value. -/
def toJson (b : Biography) : Except Timestamp.WireError Json :=
  (b.entries.mapM Entry.toJson).map fun entries =>
    let history : Json.Members := if entries.isEmpty then [] else [("transaction", .arr entries)]
    .obj ((Text.ofString b.variety.subjectKey, b.subject) :: ("status", .int b.status.code) :: history)

/-- Why a biography has no identifier. -/
inductive IdentityError where
  | noSubject (variety : Variety)
  | malformed (error : IdentifierError)
deriving DecidableEq, Repr

/-- The report of the error. -/
def IdentityError.report : IdentityError → Report
  | .noSubject .did =>
    .coded .malformedIdentifier "MALFORMED_IDENTIFIER" (say "biography carries no DID") []
  | .noSubject .credential =>
    .coded .malformedIdentifier "MALFORMED_IDENTIFIER" (say "biography carries no credential id") []
  | .malformed e => e.report

/-- The text of the identifier that the subject of a biography is. -/
def identity (b : Biography) : Except IdentityError String :=
  match b.subject with
  | .null => .error (.noSubject b.variety)
  | subject => (identifierOf b.variety subject).mapError .malformed

end Biography

end DidRegistry
