import DidRegistry.Token.Algorithm
import DidRegistry.Token.Claims
import DidRegistry.Token.Keys

/-!
# Verifying tokens

The header of a token names an algorithm and a key, its claims name an issuer.  Nothing is asked of
the registry before all three are in order; then the key is looked up, the signature is checked under
it, and the claims are held against the rules and against the values they must have.
-/

set_option autoImplicit false

namespace DidRegistry

/-- Why there is no such policy. -/
inductive PolicyError where
  /-- Algorithms that are not known, in order. -/
  | unsupported (names : List Json)
  /-- The algorithms are nothing that can be listed and sorted. -/
  | wrongType
  /-- The claims that are required are no mapping. -/
  | required (error : EntriesError)
deriving DecidableEq, Repr

/-- The report of the error. -/
def PolicyError.report : PolicyError → Report
  | .unsupported names =>
    (Report.plain .value
      (say ("unsupported algorithms: " ++ (Json.arr names).literal))).showing names
  | .wrongType => .silent .wrongType
  | .required e => e.report

/-- Why a token is not accepted. -/
inductive TokenError where
  /-- The token has no bytes. -/
  | unencodable
  | malformed (fault : TokenFault)
  | algorithm (name : Json)
  /-- The member `name` of the header or of the claims is no text. -/
  | notText (name : String) (value : Json)
  | key (error : SigningKeyError)
  | rejected (keyId : Json) (fault : TokenFault)
  /-- A claim is not what it has to be. -/
  | claim (name expected actual : Json)
  /-- The names of the claims that must have certain values have no order. -/
  | unordered
deriving Repr

namespace TokenError

/-- The report of a token that is refused. -/
def refusal (message : Message) (details : Json.Members) : Report :=
  .coded .token "TOKEN_INVALID" message details

/-- The report of a fault: a refusal when the token is to blame. -/
def faultReport (message : String) (details : Json.Members) (fault : TokenFault) : Report :=
  if fault.isRefusal then
    (refusal (say message ++ fault.report.message) details).because fault.report
  else fault.report

/-- The report of the error. -/
def report [Platform] : TokenError → Report
  | .unencodable => .silent .unencodable
  | .malformed fault => faultReport "malformed token: " [] fault
  | .algorithm v => refusal (say ("algorithm " ++ v.literal ++ " is not accepted")) [("alg", v)]
  | .notText name v => refusal (say (name ++ " must be a string")) [(name, v)]
  | .key e => e.report
  | .rejected keyId fault => faultReport "token rejected: " [("kid", keyId)] fault
  | .claim name expected actual =>
    (refusal (say ("claim " ++ name.literal ++ " does not match"))
      [("claim", name), ("expected", expected), ("actual", actual)]).showing [name]
  | .unordered => .silent .wrongType

end TokenError

/-- What a token has to meet. -/
structure TokenPolicy where
  keys : KeySource
  algorithms : List Algorithm
  /-- The audience or null. -/
  audience : Json
  /-- The issuer or null. -/
  issuer : Json
  /-- Seconds that times may be off. -/
  leeway : Json
  /-- The values that claims must have. -/
  required : Entries
deriving DecidableEq, Repr

/-- Leaves out what equals something before it. -/
def withoutRepeats : List Json → List Json
  | [] => []
  | v :: r => v :: (withoutRepeats r).filter fun w => !v.equals w

/-- Values in their order: texts by their points, numbers by size.  Values that cannot be compared have
none, unless there is one value at most. -/
def sorted? (vs : List Json) : Option (List Json) :=
  if vs.length ≤ 1 then some vs
  else if vs.all Json.isString then some (vs.mergeSort fun a b => a.text.le b.text)
  else if vs.all fun v => v.number?.isSome then
    some (vs.mergeSort fun a b =>
      match a.number?, b.number? with
      | some m, some n => m.le n
      | _, _ => true)
  else none

/-- The names of algorithms that a value lists. -/
def namesOf : Json → Except PolicyError (List Json)
  | .arr items => if items.all Entries.isKey then .ok items else .error .wrongType
  | .str t => .ok (t.points.map fun p => .str ⟨[p]⟩)
  | .obj ms => .ok (ms.map fun m => .str m.1)
  | _ => .error .wrongType

/-- The algorithm that a value names. -/
def Algorithm.ofJson? (v : Json) : Option Algorithm := all.find? fun a => v = .str a.name

/-- The algorithms with the names that a value lists. -/
def Algorithm.listOf (v : Json) : Except PolicyError (List Algorithm) :=
  match namesOf v with
  | .error e => .error e
  | .ok names =>
    match sorted? (withoutRepeats (names.filter fun v => (ofJson? v).isNone)) with
    | none => .error .wrongType
    | some [] => .ok (names.filterMap ofJson?)
    | some unknown => .error (.unsupported unknown)

/-- The algorithm that the header of a token names, if it is one of those that are accepted. -/
def algorithmIn (accepted : List Algorithm) (name : Json) : Except TokenError Algorithm :=
  match accepted.find? fun a => name = .str a.name with
  | some a => .ok a
  | none => .error (.algorithm name)

/-- A member that is a text or not there. -/
def textMember (ms : Json.Members) (name : String) : Except TokenError (Option Text) :=
  match (ms.get? name).getD .null with
  | .null => .ok none
  | .str t => .ok (some t)
  | v => .error (.notText name v)

/-- The claims that are required, with their values: none when the value that gives them stands for
nothing. -/
def requiredClaims (v : Json) : Except PolicyError Entries :=
  if v.isPresent then (Entries.ofJson v).mapError .required else .ok []

/-- A token that is in order as far as can be told without a key. -/
structure CheckedToken where
  token : Jws
  claims : Json.Members
  algorithm : Algorithm
  keyId : Option Text
  issuer : Option Text
deriving DecidableEq, Repr

namespace TokenPolicy

variable [Platform]

/-- The bytes of a token; a value that is no text is no token. -/
def bytesOf : Json → Except TokenError (List UInt8)
  | .str t =>
    match t.wellFormed? with
    | some cs => .ok (Text.Utf8.encode cs)
    | none => .error .unencodable
  | _ => .error (.malformed .decode)

/-- Reads a token up to the point where its key is needed. -/
def read (v : TokenPolicy) (token : Json) : Except TokenError CheckedToken := do
  let bytes ← bytesOf token
  let (jws, claims) ← (Jws.unverified bytes).mapError .malformed
  let algorithm ← algorithmIn v.algorithms ((Json.Members.get? jws.header "alg").getD .null)
  let keyId ← textMember jws.header "kid"
  let issuer ← textMember claims "iss"
  return ⟨jws, claims, algorithm, keyId, issuer⟩

/-- The rules that claims are held against. -/
def rules (v : TokenPolicy) (now : Number) : ClaimRules :=
  ⟨now, v.leeway, v.audience, v.issuer, v.required.map (·.1)⟩

/-- Refuses claims with other values than they must have. -/
def checkRequired (claims : Json.Members) : (required : Entries) → Except TokenError Unit
  | [] => .ok ()
  | (name, expected) :: r =>
    let actual := claimOf claims name
    if actual.equals expected then checkRequired claims r
    else .error (.claim name expected actual)

/-- The claims of a token whose key is known, if it is signed with that key and meets the rules. -/
def accept (v : TokenPolicy) (now : Number) (t : CheckedToken) (key : PublicKey) :
    Except TokenError Json.Members := do
  if (sorted? (v.required.map (·.1))).isNone then throw .unordered
  let rejected := TokenError.rejected (Json.ofText? t.keyId)
  (t.algorithm.check key t.token.signed t.token.signature).mapError rejected
  ((v.rules now).check t.claims).mapError rejected
  checkRequired t.claims v.required
  return t.claims

/-- The claims of a token that is accepted. -/
def verify (v : TokenPolicy) (now : Number) (token : Json) :
    Dialogue (Except TokenError Json.Members) := do
  match v.read token with
  | .error e => return .error e
  | .ok t =>
    match ← v.keys.signingKey (.ofText? t.issuer) (.ofText? t.keyId) with
    | .error e => return .error (.key e)
    | .ok key => return v.accept now t key

end TokenPolicy

end DidRegistry
