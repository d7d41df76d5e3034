import DidRegistry.Registry.Resolver

/-!
# Signing keys

The key that a token was signed with comes from those that are provided, where it is found by its
identifier alone, or else from the current document of the DID that issued the token.
-/

set_option autoImplicit false

namespace DidRegistry

/-- Where signing keys come from; keys that are provided come first. -/
structure KeySource where
  resolver : Option Resolver
  provided : Option (List (Text × PublicKey))
deriving DecidableEq, Repr

/-- Why there is no signing key. -/
inductive SigningKeyError where
  | noKeyId
  /-- The identifier of the key is a list or an object. -/
  | keyIdNotPlain
  | notProvided (key : Json)
  | noResolver
  | noIssuer
  /-- The issuer is no DID. -/
  | issuer (error : IdentifierError)
  | resolve (did : Did) (error : ResolveError)
  | notFound (did : Did)
  | deactivated (did : Did)
  /-- The identifier of the key is no DID URL. -/
  | reference (error : LookupError)
  | noKey (did : Did) (key : Json)
  | unusable (did : Did) (key : Json) (method : DidUrl) (error : PublicKey.Error)
deriving Repr

namespace SigningKeyError

/-- The report of a key that is not there. -/
def missing (code message : String) (details : Json.Members) : Report :=
  .coded .keyNotFound code (say message) details

/-- The report of the error. -/
def report [Platform] : SigningKeyError → Report
  | .noKeyId => missing "KEY_NOT_FOUND" "token header has no key id" []
  | .keyIdNotPlain => .silent .wrongType
  | .notProvided key =>
    (missing "KEY_NOT_FOUND" ("key provider has no key " ++ key.literal)
      [("key_id", key)]).showing [key]
  | .noResolver => missing "RESOLVE_FAILED" "no resolver configured" []
  | .noIssuer => missing "IDENTIFIER_NOT_FOUND" "token has no issuer to resolve" []
  | .issuer e => e.report
  | .resolve did e =>
    if e.isUnanswered then
      (missing "RESOLVE_FAILED" ("failed to resolve " ++ did.toText)
        [("id", .str did.toText)]).because e.report
    else e.report
  | .notFound did =>
    missing "IDENTIFIER_NOT_FOUND" ("can not resolve " ++ did.toText ++ ": not found")
      [("id", .str did.toText)]
  | .deactivated did =>
    missing "IDENTIFIER_DEACTIVATED" (did.toText ++ " is deactivated") [("id", .str did.toText)]
  | .reference e => e.report
  | .noKey did key =>
    (missing "KEY_NOT_FOUND" (did.toText ++ " has no key " ++ key.literal)
      [("id", .str did.toText), ("key_id", key)]).showing [key]
  | .unusable did key method e =>
    if e.isAboutValue then
      (Report.coded .malformedDocument "MALFORMED_DOCUMENT"
        (say ("key " ++ method.toText ++ " is not usable: ") ++ e.report.message)
        [("id", .str did.toText), ("key_id", key)]).because e.report
    else e.report

end SigningKeyError

/-- There is nowhere that keys could come from. -/
inductive KeySourceError where
  | nowhere
deriving DecidableEq, Repr

/-- The report of the error. -/
def KeySourceError.report : KeySourceError → Report
  | .nowhere => .plain .value (say "KeyResolver needs a resolver or a key provider")

namespace KeySource

variable [Platform]

/-- The source of keys that are resolved or provided. -/
def make (resolver : Option Resolver) (provided : Option (List (Text × PublicKey))) :
    Except KeySourceError KeySource :=
  if resolver.isNone && provided.isNone then .error .nowhere else .ok ⟨resolver, provided⟩

/-- The key with an identifier in the current document of a DID. -/
def keyIn (did : Did) (key : Json) (document : Option DidDocument) :
    Except SigningKeyError PublicKey :=
  match document with
  | none => .error (.notFound did)
  | some d =>
    if d.isDeactivated then .error (.deactivated did)
    else
      match d.methodOfJson? key with
      | .error e => .error (.reference e)
      | .ok none => .error (.noKey did key)
      | .ok (some m) => m.publicKey.mapError (.unusable did key m.id)

/-- The key with an identifier among those of a DID. -/
def resolved (r : Resolver) (issuer key : Json) : Dialogue (Except SigningKeyError PublicKey) :=
  if !issuer.isPresent then .done (.error .noIssuer)
  else
    match Did.parse issuer with
    | .error e => .done (.error (.issuer e))
    | .ok did => do
      match ← r.documentOf (.str did.toText) with
      | .error e => return .error (.resolve did e)
      | .ok document => return keyIn did key document

/-- The key with an identifier among those that are provided. -/
def providedKey (keys : List (Text × PublicKey)) (key : Json) : Except SigningKeyError PublicKey :=
  match key with
  | .arr _ | .obj _ => .error .keyIdNotPlain
  | _ =>
    match keys.find? fun k => key = .str k.1 with
    | some k => .ok k.2
    | none => .error (.notProvided key)

/-- The key that an issuer signs with, by its identifier. -/
def signingKey (s : KeySource) (issuer key : Json) : Dialogue (Except SigningKeyError PublicKey) :=
  if !key.isPresent then .done (.error .noKeyId)
  else
    match s.provided, s.resolver with
    | some keys, _ => .done (providedKey keys key)
    | none, none => .done (.error .noResolver)
    | none, some r => resolved r issuer key

end KeySource

end DidRegistry
