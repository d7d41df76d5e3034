import DidRegistry.Platform.Usual
import DidRegistry.Registry.Basic
import DidRegistry.Token.Policy

/-!
# Sessions

A session is a registry and a source of keys, and the steps that a caller takes with them one after
the other.  Between two steps only the number of the next request and the hash of the last submission
are kept.
-/

set_option autoImplicit false

namespace DidRegistry

/-- A session that is run where no platform is said is run on the usual one. -/
instance (priority := low) : Platform := .usual

/-- What a caller works with. -/
structure Session where
  registry : Registry
  keys : KeySource

/-- What a caller may do. -/
inductive Step where
  | publish (payload : List UInt8) (memo : Json)
  | publishGuarded (subject : Json) (operation : Operation Json) (memo : Json)
  | isFree
  /-- Where a transaction is. -/
  | standing (hash : Json)
  /-- How deep a transaction lies. -/
  | depth (hash : Json)
  /-- Whether a transaction is settled, at the depth of the settings or at another one. -/
  | isSettled (hash : Json) (depth : Option Json)
  | send (transaction : Json)
  | receipt (hash : Json)
  | transaction (hash : Json)
  | height
  | biographyOfDid (did all : Json)
  | biographyOfCredential (credential : Json)
  | documentOf (did : Json)
  | signingKey (issuer key : Json)
  | verify (policy : TokenPolicy) (now : Number) (token : Json)

/-- What a step comes to. -/
inductive Product where
  | publication (p : Publication)
  | availability (isFree : Bool)
  /-- Where a transaction is, and how deep it lies. -/
  | standing (s : Standing) (depth : Option Number)
  | depth (n : Option Number)
  | settlement (isSettled : Bool) (depth : Json)
  | submission (a : Answer Json)
  | receipt (a : Answer Receipt)
  | transaction (a : Answer KnownTransaction)
  | height (a : Answer Json)
  | biography (b : Biography)
  | document (d : Option DidDocument)
  | key (k : PublicKey)
  | claims (ms : Json.Members)

namespace Session

variable [Platform]

/-- A dialogue whose result is a product or a report. -/
def reported {ε α : Type} (report : ε → Report) (product : α → Product)
    (d : Dialogue (Except ε α)) : Dialogue (Except Report Product) :=
  d.bind fun r => .done ((r.mapError report).map product)

/-- The dialogue of a step. -/
def dialogue (s : Session) : Step → Dialogue (Except Report Product)
  | .publish payload memo =>
    reported PublishError.report .publication (s.registry.publisher.publish payload memo)
  | .publishGuarded subject op memo =>
    reported RegistryError.report .publication (s.registry.publishGuarded subject op memo)
  | .isFree =>
    reported StandingError.report .availability s.registry.publisher.isFree
  | .standing hash =>
    reported StandingError.report (fun c => .standing c.1 c.2)
      (s.registry.publisher.ledger.standingAndDepth hash)
  | .depth hash =>
    reported StandingError.report (fun c => .depth c.2)
      (s.registry.publisher.ledger.standingAndDepth hash)
  | .isSettled hash depth =>
    let depth := depth.getD (.ofNumber s.registry.publisher.settings.depth)
    reported StandingError.report (.settlement · depth)
      (s.registry.publisher.ledger.isSettled depth hash)
  | .send tx => reported Breakdown.report .submission (s.registry.publisher.ledger.send tx)
  | .receipt hash => reported Breakdown.report .receipt (s.registry.publisher.ledger.receipt hash)
  | .transaction hash =>
    reported Breakdown.report .transaction (s.registry.publisher.ledger.transaction hash)
  | .height => reported Breakdown.report .height s.registry.publisher.ledger.height
  | .biographyOfDid did all =>
    reported ResolveError.report .biography (s.registry.resolver.biographyOfDid did all)
  | .biographyOfCredential credential =>
    reported ResolveError.report .biography (s.registry.resolver.biographyOfCredential credential)
  | .documentOf did =>
    reported ResolveError.report .document (s.registry.resolver.documentOf did)
  | .signingKey issuer key => reported SigningKeyError.report .key (s.keys.signingKey issuer key)
  | .verify policy now token => reported TokenError.report .claims (policy.verify now token)

/-- Plays a step, starting with what is kept in memory. -/
def play (s : Session) (w : Surroundings) (step : Step) (memory : Memory) :
    Ending (Except Report Product) × Progress :=
  (s.dialogue step).run w { memory }

/-- Plays steps, each in its own surroundings, one after the other. -/
def playAll (s : Session) : List (Step × Surroundings) → Memory →
    List (Ending (Except Report Product) × Progress)
  | [], _ => []
  | (step, w) :: r, memory =>
    let played := s.play w step memory
    played :: s.playAll r played.2.memory

end Session

end DidRegistry
