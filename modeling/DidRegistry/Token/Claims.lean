import DidRegistry.Json.Equality
import DidRegistry.Json.Whole
import DidRegistry.Token.Jws

/-!
# Claims

What the payload of a token says: when it was issued, from when and until when it is valid, by whom
and for whom it is.  Times are whole seconds; a leeway is granted on each of them.
-/

set_option autoImplicit false

namespace DidRegistry

/-- What the claims of a token have to meet. -/
structure ClaimRules where
  /-- The present time in seconds. -/
  now : Number
  /-- Seconds that times may be off; looked at only where a time is. -/
  leeway : Json
  /-- The audience, one of a list of audiences, or null for any token without one. -/
  audience : Json
  /-- The issuer, one of a list of issuers, or null. -/
  issuer : Json
  /-- The claims that have to be there. -/
  required : List Json
deriving DecidableEq, Repr

/-- The claim with a name, null when it is not there; a name that is no text is that of no claim. -/
def claimOf (claims : Json.Members) : (name : Json) → Json
  | .str name => (claims.get? name).getD .null
  | _ => .null

namespace ClaimRules

/-- The whole seconds that a claim gives; `fault` when its text or number is none. -/
def seconds (v : Json) (fault : TokenFault) : Except TokenFault Int :=
  match v.toWhole with
  | .ok n => .ok n
  | .error .wrongType => .error .wrongType
  | .error .infinite => .error .outOfRange
  | .error _ => .error fault

/-- The present time, moved by the leeway. -/
def moved (rules : ClaimRules) (move? : Number → Number → Option Number) :
    Except TokenFault Number :=
  match rules.leeway.number? with
  | none => .error .wrongType
  | some leeway =>
    match move? rules.now leeway with
    | some n => .ok n
    | none => .error .outOfRange

/-- Refuses a time that is not reached yet. -/
def checkReached (rules : ClaimRules) (fault : TokenFault) : Option Json → Except TokenFault Unit
  | none => .ok ()
  | some v =>
    match seconds v fault with
    | .error e => .error e
    | .ok n =>
      match rules.moved Number.add? with
      | .error e => .error e
      | .ok limit => if limit.lt (.int n) then .error .immature else .ok ()

/-- Refuses a time that has passed. -/
def checkExpiry (rules : ClaimRules) : Option Json → Except TokenFault Unit
  | none => .ok ()
  | some v =>
    match seconds v .decode with
    | .error e => .error e
    | .ok n =>
      match rules.moved Number.sub? with
      | .error e => .error e
      | .ok limit => if (Number.int n).le limit then .error .expired else .ok ()

/-- Refuses a token of another issuer. -/
def checkIssuer (rules : ClaimRules) (claims : Json.Members) : Except TokenFault Unit :=
  match rules.issuer with
  | .null => .ok ()
  | issuer =>
    match claims.get? "iss" with
    | none => .error .missingClaim
    | some iss =>
      let fits := match issuer with
        | .arr issuers => issuers.any fun i => iss.equals i
        | i => iss.equals i
      if fits then .ok () else .error .issuer

/-- The audiences that a token names; none when they are not texts. -/
def audiences? : Json → Option (List Json)
  | .arr items => if items.all Json.isString then some items else none
  | v => if v.isString then some [v] else none

/-- The audiences that a token may be for. -/
def wantedAudiences : Json → List Json
  | .arr items => items
  | .obj ms => ms.map fun m => .str m.1
  | v => [v]

/-- Refuses a token for another audience, and one for an audience when none is wanted. -/
def checkAudience (rules : ClaimRules) (claims : Json.Members) : Except TokenFault Unit :=
  let named := (claims.get? "aud").getD .null
  match rules.audience with
  | .null => if named.isPresent then .error .audience else .ok ()
  | wanted =>
    if !named.isPresent then .error .missingClaim
    else
      match audiences? named with
      | none => .error .audience
      | some auds =>
        if (wantedAudiences wanted).any fun w => auds.any fun a => w.equals a then .ok ()
        else .error .audience

/-- Whether an audience can be asked for. -/
def isAudience : Json → Bool
  | .bool _ | .int _ | .real _ => false
  | _ => true

/-- Refuses claims that do not meet the rules. -/
def check (rules : ClaimRules) (claims : Json.Members) : Except TokenFault Unit := do
  if !isAudience rules.audience then throw .wrongType
  if rules.required.any fun k => claimOf claims k = .null then throw .missingClaim
  rules.checkReached .issuedAt (claims.get? "iat")
  rules.checkReached .decode (claims.get? "nbf")
  rules.checkExpiry (claims.get? "exp")
  rules.checkIssuer claims
  rules.checkAudience claims

end ClaimRules

end DidRegistry
