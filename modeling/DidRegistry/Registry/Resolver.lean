import DidRegistry.Document.Current
import DidRegistry.Ledger.Dialogue

/-!
# Resolving

A resolver is asked for the history of a subject.  What it answers is handed on only when it is a
well formed biography of exactly that subject.
-/

set_option autoImplicit false

namespace DidRegistry

/-- Why a subject is not resolved. -/
inductive ResolveError where
  /-- The question names no subject of the kind; nothing was asked. -/
  | identifier (error : IdentifierError)
  | unreachable (subject : Text) (method : String) (cause : Breakdown)
  | response (error : Rpc.ResponseError)
  | refused (subject : Text) (method : String) (error : NodeError)
  | biography (error : BiographyError)
deriving Repr

namespace ResolveError

/-- The report of a subject without an answer. -/
def failure (message : Message) (details : Json.Members) : Report :=
  .coded .unresolved "RESOLVE_FAILED" message details

/-- The report of the error. -/
def report [Platform] : ResolveError → Report
  | .identifier e => e.report
  | .unreachable subject method b =>
    (failure (say ("resolver unreachable while resolving " ++ subject ++ ": ") ++ b.report.message)
      [("id", .str subject), ("method", .str method)]).because b.report
  | .response e => e.report
  | .refused subject method e =>
    failure (say ("resolver error for " ++ subject ++ ": " ++ e.text))
      [("id", .str subject), ("method", .str method), ("rpc_code", e.code)]
  | .biography e => e.report

/-- Whether the resolver gave no answer: it was not reached, or it refused. -/
def isUnanswered : ResolveError → Bool
  | .unreachable _ _ _ | .refused _ _ _ => true
  | _ => false

end ResolveError

variable [Platform]

/-- The biography of a subject that an answer gives, and no other one. -/
def Biography.answering (variety : Variety) (subject : Text) (v : Json) :
    Except BiographyError Biography :=
  match Biography.ofJson variety v with
  | .error e => .error e
  | .ok b => if b.subject = .str subject then .ok b else .error (.otherSubject b.subject subject)

/-- A resolver at an address. -/
structure Resolver where
  url : Text
deriving DecidableEq, Repr

namespace Resolver

/-- The method that asks for a history. -/
def method : Variety → String
  | .did => "did_resolveDID"
  | .credential => "did_resolveCredential"

/-- The biography that the response to a question about a subject gives. -/
def read (variety : Variety) (subject : Text) (response : Except Breakdown Json) :
    Except ResolveError Biography :=
  match response with
  | .error b => .error (.unreachable subject (method variety) b)
  | .ok v =>
    match Rpc.read v with
    | .error e => .error (.response e)
    | .ok (.error e) => .error (.refused subject (method variety) e)
    | .ok (.ok result) => (Biography.answering variety subject result).mapError .biography

/-- Asks for the biography of a subject. -/
def resolve (r : Resolver) (variety : Variety) (subject : Text) (parameters : Json.Members) :
    Dialogue (Except ResolveError Biography) := do
  return read variety subject (← Dialogue.post r.url (method variety) [.obj parameters])

/-- The text of the DID that a value names; a value that is no text stands for itself. -/
def didOf (v : Json) : Except IdentifierError Text :=
  if v.isString then (Did.parse v).map fun d => d.toText else .ok v.text

/-- The text of the DID URL that a value names; a value that is no text stands for itself. -/
def credentialOf (v : Json) : Except IdentifierError Text :=
  if v.isString then (DidUrl.parse v none).map fun u => u.toText else .ok v.text

/-- The biography of a DID, with all transactions or with the latest only. -/
def biographyOfDid (r : Resolver) (did : Json) (all : Json) :
    Dialogue (Except ResolveError Biography) :=
  match didOf did with
  | .error e => .done (.error (.identifier e))
  | .ok subject => r.resolve .did subject [("did", .str subject), ("all", all)]

/-- The biography of a credential. -/
def biographyOfCredential (r : Resolver) (credential : Json) :
    Dialogue (Except ResolveError Biography) :=
  match credentialOf credential with
  | .error e => .done (.error (.identifier e))
  | .ok subject => r.resolve .credential subject [("id", .str subject)]

/-- The current document of a DID; none when the DID is not found. -/
def documentOf (r : Resolver) (did : Json) :
    Dialogue (Except ResolveError (Option DidDocument)) := do
  return (← r.biographyOfDid did (.bool true)).bind fun b => b.document.mapError .biography

end Resolver

end DidRegistry
