import DidRegistry.Publisher.Basic
import DidRegistry.Registry.Resolver

/-!
# The registry

Publishing an operation is guarded.  Nothing is sent while an earlier write is still settling.  An
operation that changes a DID has to follow the latest transaction of that DID.  And one that replaces
the document of a DID, signed by one of its controllers, has to keep that controller.
-/

set_option autoImplicit false

namespace DidRegistry

/-- A registry: what publishes and what resolves. -/
structure Registry where
  publisher : Publisher
  resolver : Resolver

/-- Why an operation was not published. -/
inductive RegistryError where
  | standing (error : StandingError)
  /-- An earlier write is still settling. -/
  | busy (last : Option Json)
  /-- What the operation does is a list or an object. -/
  | kindNotText
  | resolve (error : ResolveError)
  | unpublished (subject : Text) (kind : String)
  | stale (subject latest : Text) (previous : Option Json)
  | document (error : BiographyError)
  /-- The key that signed it has no identifier. -/
  | signer (error : IdentifierError)
  /-- The payload holds no document. -/
  | content (kind : String) (subject : Did) (error : ContentError)
  | dropsSigner (kind : String) (subject signer : Did)
  /-- The operation has no canonical form. -/
  | wire (error : Json.CanonicalError)
  | publish (error : PublishError)
deriving Repr

namespace RegistryError

/-- The report of content that is no document: what is wrong with a document is reported as such,
and so is a payload that is no text or lies too deep. -/
def contentReport [Platform] (kind : String) (subject : Did) : ContentError → Report
  | .payload .notText => Payload.Error.notText.report
  | .payload (.json .tooDeep) => .silent .tooDeep
  | .payload e =>
    (Report.coded .malformedDocument "MALFORMED_DOCUMENT"
      (say (kind ++ " payload is not a DID document: ") ++ e.report.message)
      [("id", .str subject.toText)]).because e.report
  | .document e => e.report

/-- The report of the error. -/
def report [Platform] : RegistryError → Report
  | .standing e => e.report
  | .busy last =>
    .coded .busy "PUBLISHER_BUSY" (say "previous transaction is still settling")
      [("last_tx_hash", last.getD .null)]
  | .kindNotText => .silent .wrongType
  | .resolve e => e.report
  | .unpublished subject kind =>
    .coded .notUpToDate "DID_NOT_UP_TO_DATE"
      (say (subject ++ " is not published; cannot " ++ kind)) [("id", .str subject)]
  | .stale subject latest previous =>
    .coded .notUpToDate "DID_NOT_UP_TO_DATE"
      (say (subject ++ " was updated by " ++ latest ++ "; operation chains from " ++
        (previous.getD .null).text))
      [("id", .str subject), ("latest_txid", .str latest), ("previous_txid", previous.getD .null)]
  | .document e => e.report
  | .signer e => e.report
  | .content kind subject e => contentReport kind subject e
  | .dropsSigner kind subject controller =>
    .coded .removesController "CAN_NOT_REMOVE_EFFECTIVE_CONTROLLER"
      (say (kind ++ " of " ++ subject.toText ++ " removes its signing controller " ++
        controller.toText))
      [("id", .str subject.toText), ("controller", .str controller.toText)]
  | .wire e => e.report
  | .publish e => e.report

end RegistryError

namespace Registry

/-- The operations that have to name the transaction they follow. -/
def chainedKinds : List String := ["update", "transfer", "deactivate"]

/-- The operations that replace a document. -/
def replacingKinds : List String := ["update", "transfer"]

/-- The chained operation on a DID that an operation is, if it is one. -/
def chainedKind? (op : Operation Json) : Except RegistryError (Option String) :=
  if op.specification = .str (Text.ofString Variety.did.specification) then
    match op.kind with
    | .str kind => .ok (chainedKinds.find? fun k => kind = k)
    | .arr _ | .obj _ => .error .kindNotText
    | _ => .ok none
  else .ok none

/-- The DID whose key signed an operation; its identifier may be relative to the document. -/
def signerOf (current : DidDocument) (op : Operation Json) : Except RegistryError Did :=
  match DidUrl.parse op.method (some current.subject) with
  | .ok url => .ok url.did
  | .error e => .error (.signer e)

variable [Platform]

/-- Refuses to replace a document by one without the controller that signs. -/
def checkSigner (b : Biography) (kind : String) (op : Operation Json) : Except RegistryError Unit :=
  match b.document with
  | .error e => .error (.document e)
  | .ok none => .ok ()
  | .ok (some current) =>
    match signerOf current op with
    | .error e => .error e
    | .ok signer =>
      if !current.hasController signer then .ok ()
      else
        match DidDocument.ofPayload (Payload.bytesOf op.payload) false with
        | .error e => .error (.content kind current.subject e)
        | .ok updated =>
          if updated.hasController signer then .ok ()
          else .error (.dropsSigner kind current.subject signer)

/-- Refuses a chained operation that does not suit the history of its subject. -/
def checkChained (subject : Text) (kind : String) (op : Operation Json) (b : Biography) :
    Except RegistryError Unit :=
  match b.latest? with
  | none => .error (.unpublished subject kind)
  | some latest =>
    if op.previous ≠ some (.str latest.txid) then .error (.stale subject latest.txid op.previous)
    else if replacingKinds.contains kind then checkSigner b kind op
    else .ok ()

/-- Refuses an operation that its subject is not up to. -/
def guard (r : Registry) (subject : Json) (op : Operation Json) :
    Dialogue (Except RegistryError Unit) := do
  match chainedKind? op with
  | .error e => return .error e
  | .ok none => return .ok ()
  | .ok (some kind) =>
    match ← r.resolver.biographyOfDid subject (.bool true) with
    | .error e => return .error (.resolve e)
    | .ok b => return checkChained subject.text kind op b

/-- Publishes an operation without looking at its subject. -/
def publish (r : Registry) (op : Operation Json) (memo : Json) :
    Dialogue (Except RegistryError Publication) := do
  match op.wireBytes with
  | .error e => return .error (.wire e)
  | .ok payload => return (← r.publisher.publish payload memo).mapError .publish

/-- Publishes an operation on a subject when nothing speaks against it. -/
def publishGuarded (r : Registry) (subject : Json) (op : Operation Json) (memo : Json) :
    Dialogue (Except RegistryError Publication) := do
  match ← r.publisher.isFree with
  | .error e => return .error (.standing e)
  | .ok false => return .error (.busy (← Dialogue.lastHash))
  | .ok true =>
    match ← r.guard subject op with
    | .error e => return .error e
    | .ok _ => r.publish op memo

end Registry

end DidRegistry
