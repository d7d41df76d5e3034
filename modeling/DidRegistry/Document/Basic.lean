import DidRegistry.Document.PublicKey
import DidRegistry.Identifier
import DidRegistry.Platform

/-!
# DID documents

The part of a DID document that keys and controllers are found by: its subject, its verification
methods in order, and the DIDs that control it.  Verification methods stand in the member
`verificationMethod`, or in `publicKey` when that is not there; their identifiers may be relative to
the subject, and one without a controller is controlled by the subject.
-/

set_option autoImplicit false

namespace DidRegistry

/-- A verification method; its type and its key are looked at only when the key is asked for. -/
structure VerificationMethod where
  id : DidUrl
  type : Json
  controller : Did
  /-- The key in base58, or null. -/
  base58 : Json
  /-- The key as a JWK, or null. -/
  jwk : Json
deriving DecidableEq, Repr

/-- A DID document. -/
structure DidDocument where
  subject : Did
  methods : List VerificationMethod
  controllers : List Did
  isDeactivated : Bool
deriving DecidableEq, Repr

/-- Why a value is no document. -/
inductive DocumentError where
  | notAnObject (value : Json)
  | missing (key : String)
  /-- The verification methods are no list. -/
  | methodsNotAList
  /-- A verification method is no object. -/
  | methodNotAnObject (value : Json)
  /-- The controllers are neither a text nor a list. -/
  | badControllers
  | identifier (error : IdentifierError)
deriving DecidableEq, Repr

namespace DocumentError

/-- The report of a refusal. -/
def refusal (message : String) : Report :=
  .coded .malformedDocument "MALFORMED_DOCUMENT" (say message) []

/-- The values that the message shows. -/
def shown : DocumentError → List Json
  | .methodNotAnObject v => [v]
  | .identifier e => e.shown
  | _ => []

/-- The report of the error as far as its values can be shown. -/
def told : DocumentError → Report
  | .notAnObject v => refusal ("document must be an object, got: " ++ v.kindName)
  | .missing key =>
    (refusal ("document is missing " ++ Text.quoted key)).because
      (.plain .missingMember (say (Text.quoted key)))
  | .methodsNotAList => refusal "verification methods must be an array"
  | .methodNotAnObject v => refusal ("verification method must be an object: " ++ v.literal)
  | .badControllers => refusal "controller must be a DID or an array of DIDs"
  | .identifier e => (refusal ("document has a malformed identifier: " ++ e.message)).because e.report

/-- The report of the error. -/
def report [Platform] (e : DocumentError) : Report := e.told.showingWithin Platform.showRoom e.shown

end DocumentError

/-- Why a verification method is not found. -/
inductive LookupError where
  /-- The identifier is no text. -/
  | notText
  | identifier (error : IdentifierError)
deriving DecidableEq, Repr

/-- The report of the error. -/
def LookupError.report : LookupError → Report
  | .notText => .silent .noSuchOperation
  | .identifier e => e.report

/-- The key of a verification method. -/
def VerificationMethod.publicKey (m : VerificationMethod) : Except PublicKey.Error PublicKey :=
  match m.jwk, m.base58 with
  | .null, .null => .error (.noMaterial m.id.toText)
  | .null, value => PublicKey.ofBase58 m.type value
  | jwk, _ => PublicKey.ofJwk jwk

namespace DidDocument

/-- The controller of a verification method. -/
def controllerOf (subject : Did) (controller : Json) : Except IdentifierError Did :=
  if controller.isPresent then Did.parse controller else .ok subject

/-- The verification method that a value gives. -/
def methodOf (subject : Did) (entry : Json) : Except DocumentError VerificationMethod :=
  match entry with
  | .obj _ =>
    match entry.get? "id" with
    | none => .error (.missing "id")
    | some v =>
      match DidUrl.parse v (some subject) with
      | .error e => .error (.identifier e)
      | .ok id =>
        match controllerOf subject ((entry.get? "controller").getD .null) with
        | .error e => .error (.identifier e)
        | .ok controller =>
          .ok ⟨id, (entry.get? "type").getD (.str ""), controller,
            (entry.get? "publicKeyBase58").getD .null, (entry.get? "publicKeyJwk").getD .null⟩
  | v => .error (.methodNotAnObject v)

/-- The verification methods that values give. -/
def methodsOf (subject : Did) : List Json → Except DocumentError (List VerificationMethod)
  | [] => .ok []
  | entry :: entries =>
    match methodOf subject entry with
    | .error e => .error e
    | .ok m => (methodsOf subject entries).map (m :: ·)

/-- The DIDs that values are. -/
def didsOf : List Json → Except DocumentError (List Did)
  | [] => .ok []
  | v :: vs =>
    match Did.parse v with
    | .error e => .error (.identifier e)
    | .ok d => (didsOf vs).map (d :: ·)

/-- The controllers that a value gives: none, one, or a list of them. -/
def controllersOf : Json → Except DocumentError (List Did)
  | .null => .ok []
  | .arr items => didsOf items
  | v => if v.isString then didsOf [v] else .error .badControllers

/-- The values of the verification methods of a document. -/
def entriesOf (v : Json) : Except DocumentError (List Json) :=
  let entries := match (v.get? "verificationMethod").getD .null with
    | .null => (v.get? "publicKey").getD (.arr [])
    | x => x
  match entries with
  | .arr items => .ok items
  | _ => .error .methodsNotAList

/-- The subject that a document names. -/
def subjectOf (v : Json) : Except DocumentError Did :=
  match v.get? "id" with
  | none => .error (.missing "id")
  | some id => (Did.parse id).mapError .identifier

/-- The document that a value gives. -/
def ofJson (v : Json) (isDeactivated : Bool) : Except DocumentError DidDocument :=
  match v with
  | .obj _ => do
    let subject ← subjectOf v
    let methods ← methodsOf subject (← entriesOf v)
    let controllers ← controllersOf ((v.get? "controller").getD .null)
    return ⟨subject, methods, controllers, isDeactivated⟩
  | _ => .error (.notAnObject v)

/-- Whether a DID controls the document. -/
def hasController (d : DidDocument) (did : Did) : Bool := d.controllers.contains did

/-- A key identifier as a DID URL, absolute or relative: a bare fragment gets its `#`. -/
def asReference (key : Text) : Text :=
  if key.chars.contains '#' then key else "#" ++ key

/-- The first verification method with an identifier: a DID URL, `#` and a fragment, or a fragment. -/
def method? (d : DidDocument) (key : Text) : Except IdentifierError (Option VerificationMethod) :=
  (DidUrl.parse (.str (asReference key)) (some d.subject)).map fun wanted =>
    d.methods.find? fun m => m.id = wanted

/-- The first verification method with an identifier that a value gives. -/
def methodOfJson? (d : DidDocument) (key : Json) : Except LookupError (Option VerificationMethod) :=
  if key.isString then (d.method? key.text).mapError .identifier else .error .notText

end DidDocument

end DidRegistry
