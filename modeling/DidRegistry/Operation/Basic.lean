import DidRegistry.Operation.Payload

/-!
# Operations

A signed operation: a header that says by which specification it is to be read, what it does and
which transaction it follows, a payload, and a proof that says which key signed it.

The fields of an operation that is on the ledger are texts; those of one that a caller hands in can
be any values, and are looked at only where they are used.  So the type of the fields is a parameter.
-/

set_option autoImplicit false

namespace DidRegistry

/-- A signed operation with fields of the type `α`. -/
structure Operation (α : Type) where
  specification : α
  /-- What the operation does. -/
  kind : α
  /-- The transaction that it follows. -/
  previous : Option α
  payload : α
  /-- The verification method of its proof. -/
  method : α
  signature : α
  /-- The type of its proof. -/
  proofType : α
deriving DecidableEq, Repr

/-- Why a value is no operation. -/
inductive OperationError where
  /-- A part is no object. -/
  | wrongType
  | missing (key : String)
deriving DecidableEq, Repr

/-- The report of the error. -/
def OperationError.report : OperationError → Report
  | .wrongType => .silent .wrongType
  | .missing key => .plain .missingMember (say (Text.quoted key))

namespace Operation

/-- The type of a proof that names none. -/
def defaultProofType : String := "ECDSAsecp256r1"

/-- The operation with every field mapped. -/
def map {α β : Type} (f : α → β) (op : Operation α) : Operation β :=
  ⟨f op.specification, f op.kind, op.previous.map f, f op.payload, f op.method, f op.signature,
    f op.proofType⟩

/-- A member that has to be there. -/
def member (v : Json) (key : String) : Except OperationError Json :=
  match v with
  | .obj ms =>
    match Json.Members.get? ms key with
    | some x => .ok x
    | none => .error (.missing key)
  | _ => .error .wrongType

/-- A value, or none when it is null. -/
def present : Json → Option Json
  | .null => none
  | v => some v

/-- The operation that a value gives; its fields are any values. -/
def ofJson (v : Json) : Except OperationError (Operation Json) := do
  let header ← member v "header"
  let proof ← member v "proof"
  let specification ← member header "specification"
  let kind ← member header "operation"
  let previous := present ((header.get? "previousTxid").getD .null)
  let payload ← member v "payload"
  let method ← member proof "verificationMethod"
  let signature ← member proof "signature"
  let proofType := (proof.get? "type").getD (.str defaultProofType)
  return ⟨specification, kind, previous, payload, method, signature, proofType⟩

/-- The operation that carries a document, with a header and a proof. -/
def forDocument [Platform] (specification kind : Json) (previous : Option Json) (document : Json)
    (method signature proofType : Json) : Except Json.CanonicalError (Operation Json) :=
  (Payload.ofDocument document).map fun (payload : String) =>
    ⟨specification, kind, previous, .str (Text.ofString payload), method, signature, proofType⟩

/-- The JSON object that the payload holds. -/
def payloadObject [Platform] (op : Operation Json) : Except Payload.Error Json.Members :=
  (Payload.bytesOf op.payload).bind Payload.objectOf

/-- The operation as a value. -/
def toJson (op : Operation Json) : Json :=
  let chain : Json.Members := match op.previous with
    | some txid => [("previousTxid", txid)]
    | none => []
  .obj [
    ("header", .obj (("specification", op.specification) :: ("operation", op.kind) :: chain)),
    ("payload", op.payload),
    ("proof", .obj [("type", op.proofType), ("verificationMethod", op.method),
      ("signature", op.signature)])]

/-- The bytes that are published: the canonical JSON of the operation. -/
def wireBytes [Platform] (op : Operation Json) : Except Json.CanonicalError (List UInt8) :=
  op.toJson.canonicalBytes

/-- The operation of texts as one of values. -/
def toValues (op : Operation Text) : Operation Json := op.map .str

end Operation

end DidRegistry
