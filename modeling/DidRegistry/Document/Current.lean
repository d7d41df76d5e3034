import DidRegistry.Biography.Basic
import DidRegistry.Document.Basic

/-!
# The current document of a DID

The document that the latest operation with a document carries.  A DID that is not found has none;
that of a deactivated DID is its last one and is marked.
-/

set_option autoImplicit false

namespace DidRegistry

/-- Why a payload holds no document. -/
inductive ContentError where
  | payload (error : Payload.Error)
  | document (error : DocumentError)
deriving DecidableEq, Repr

/-- The report of the error. -/
def ContentError.report [Platform] : ContentError → Report
  | .payload e => e.report
  | .document e => e.report

variable [Platform]

/-- The document in the bytes of a payload. -/
def DidDocument.ofPayload (payload : Except Payload.Error (List UInt8)) (isDeactivated : Bool) :
    Except ContentError DidDocument :=
  match payload with
  | .error e => .error (.payload e)
  | .ok bytes =>
    match Payload.objectOf bytes with
    | .error e => .error (.payload e)
    | .ok ms => (DidDocument.ofJson (.obj ms) isDeactivated).mapError .document

namespace Biography

/-- The latest transaction that carries a document. -/
def latestDocument? (b : Biography) : Option Entry :=
  b.entries.reverse.find? fun r => Variety.did.carriesDocument r.operation.kind

/-- The current document. -/
def document (b : Biography) : Except BiographyError (Option DidDocument) :=
  if b.status = .notFound then .ok none
  else
    match b.latestDocument? with
    | none => .error (.noDocument b.subject)
    | some r =>
      match DidDocument.ofPayload (Payload.bytes r.operation.payload) (b.status = .ended) with
      | .ok d => .ok (some d)
      | .error e => .error (.badDocument b.subject r.txid e.report)

end Biography

end DidRegistry
