import DidRegistry.Json.Basic

/-!
# Reports of failures

Every failure of the library can be reported in one form: its kind, a message, and for the
library's own kinds a code and details; a failure that another one led to names that one as its
cause.

A message is made of words and of places that the one who prints it fills in: the name of a kind of
failure that has no words of its own.  A message that shows values is there only if they can be
shown; otherwise that they cannot is the failure.

## Results

* `Report.kind_showing` — whether its values can be shown does not change that a failure concerns a value.
-/

set_option autoImplicit false

namespace DidRegistry

/-- The kinds of failure that a caller can tell apart. -/
inductive Kind where
  /-- Settings that do not fit. -/
  | config
  /-- A transaction that the node did not take. -/
  | submission
  /-- A receipt that could not be asked for. -/
  | receiptQuery
  /-- A transaction that was taken and not mined in time. -/
  | confirmationTimeout
  /-- A depth that could not be computed. -/
  | confirmationQuery
  /-- An earlier write that has not settled. -/
  | busy
  | malformedTransaction
  | malformedBiography
  | malformedDocument
  | malformedIdentifier
  /-- An identifier that the resolver gave no answer for. -/
  | unresolved
  /-- An operation that does not chain from the latest transaction. -/
  | notUpToDate
  /-- An operation that drops the controller that signs it. -/
  | removesController
  /-- A signing key that is not there. -/
  | keyNotFound
  /-- A token that is refused. -/
  | token
  /-- A value outside its domain. -/
  | value
  /-- A call at the wrong time. -/
  | state
  /-- A member that is missing. -/
  | missingMember
  /-- A value of the wrong type. -/
  | wrongType
  /-- An operation that the type of a value does not have. -/
  | noSuchOperation
  /-- A number out of range. -/
  | outOfRange
  /-- A text that is no JSON. -/
  | jsonText
  /-- A text whose values lie too deep in one another. -/
  | tooDeep
  /-- Bytes that are no text. -/
  | undecodable
  /-- A text that has no bytes in the encoding. -/
  | unencodable
  /-- A text that does not decode. -/
  | encoding
  | base64
  /-- A value that does not meet its schema. -/
  | schema
  /-- A node that cannot be reached. -/
  | connection
  /-- An HTTP connection that fails. -/
  | httpConnection
  /-- An HTTP status that says failure. -/
  | httpStatus
  /-- A response that breaks the rules of HTTP. -/
  | httpProtocol
  /-- An address that is none. -/
  | url
  /-- A host name that is none. -/
  | hostLabel
  /-- A code point that no host name may hold. -/
  | hostCodePoint
  /-- A code point where a host name may not hold it. -/
  | hostContext
  /-- A host name that is written in different directions. -/
  | hostDirection
  /-- Call data that is no encoded call. -/
  | callData
  /-- A token that does not decode. -/
  | tokenDecode
  /-- A token with an unfit header. -/
  | tokenInvalid
  | tokenAlgorithm
  | tokenKey
  | tokenSignature
  | tokenExpired
  | tokenImmature
  | tokenIssuedAt
  | tokenIssuer
  | tokenAudience
  | tokenMissingClaim
deriving DecidableEq, Repr

/-- A part of a message. -/
inductive Piece where
  | words (t : Text)
  /-- The name of a kind of failure. -/
  | nameOf (kind : Kind)
deriving DecidableEq, Repr

/-- A message: its parts in order. -/
abbrev Message := List Piece

/-- A message of words alone. -/
def say (t : Text) : Message := [.words t]

/-- The text of a message, given the names of the kinds. -/
def Message.render (name : Kind → String) (m : Message) : Text :=
  Text.join (m.map fun
    | .words t => t
    | .nameOf k => "<" ++ name k ++ ">")

/-- A failure as it is reported. -/
structure Report where
  kind : Kind
  message : Message
  /-- The code of one of the library's own failures. -/
  code : Option String := none
  /-- What is known about one of the library's own failures. -/
  details : Json.Members := []
  /-- The transaction that was given up waiting for, and the number of polls. -/
  awaited : Option (Json × Json) := none
  /-- The kind and the message of the failure that led to this one. -/
  cause : Option (Kind × Message) := none
deriving Repr

/-- Why a value cannot be shown. -/
inductive Unshowable where
  /-- It has a whole number of too many digits. -/
  | tooLong
  /-- Its lists and objects lie too deep in one another. -/
  | tooDeep
deriving DecidableEq, Repr

/-- The failure that comes of it. -/
def Unshowable.kind : Unshowable → Kind
  | .tooLong => .value
  | .tooDeep => .tooDeep

mutual

/-- The first thing in a value that cannot be shown, with room for so many lists and objects in one
another. -/
def Json.unshowable? : (room : Nat) → Json → Option Unshowable
  | _, .int n => if Json.IsShort n then none else some .tooLong
  | 0, .arr _ | 0, .obj _ => some .tooDeep
  | room + 1, .arr items => Json.unshowableItem? room items
  | room + 1, .obj members => Json.unshowableMember? room members
  | _, _ => none

/-- The first thing in items that cannot be shown. -/
def Json.unshowableItem? : (room : Nat) → List Json → Option Unshowable
  | _, [] => none
  | room, x :: r => (Json.unshowable? room x).or (Json.unshowableItem? room r)

/-- The first thing in members that cannot be shown. -/
def Json.unshowableMember? : (room : Nat) → List (Text × Json) → Option Unshowable
  | _, [] => none
  | room, (_, x) :: r => (Json.unshowable? room x).or (Json.unshowableMember? room r)

end

namespace Report

/-- A failure without words of its own. -/
def silent (kind : Kind) : Report :=
  ⟨kind, [.nameOf kind], none, [], none, none⟩

/-- A failure with a message and nothing else. -/
def plain (kind : Kind) (message : Message) : Report :=
  ⟨kind, message, none, [], none, none⟩

/-- One of the library's own failures. -/
def coded (kind : Kind) (code : String) (message : Message) (details : Json.Members) : Report :=
  ⟨kind, message, some code, details, none, none⟩

/-- A report whose message shows values that there is room for.  A value with a whole number of too many
digits cannot be shown, and that is the failure then. -/
def showing (vs : List Json) (r : Report) : Report :=
  if vs.all Json.allShort then r else silent .value

/-- A failure that concerns a value anyway is one whether the values can be shown or not. -/
theorem kind_showing {r : Report} (h : r.kind = .value) (vs : List Json) : (r.showing vs).kind = .value := by
  unfold showing
  split
  · exact h
  · rfl

theorem showing_of_short {vs : List Json} (h : vs.all Json.allShort = true) (r : Report) :
    r.showing vs = r := if_pos h

/-- A report whose message shows values, with room for so many lists and objects in one another.  The
first thing that cannot be shown is the failure then. -/
def showingWithin (room : Nat) (vs : List Json) (r : Report) : Report :=
  match vs.findSome? (Json.unshowable? room) with
  | none => r
  | some u => silent u.kind

/-- The report with another failure as its cause. -/
def because (r cause : Report) : Report :=
  ⟨r.kind, r.message, r.code, r.details, r.awaited, some (cause.kind, cause.message)⟩

end Report

end DidRegistry
