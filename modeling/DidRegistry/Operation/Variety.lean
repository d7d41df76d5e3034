import DidRegistry.Text.Basic

/-!
# Varieties of subjects

The registry holds the histories of two kinds of subjects: DIDs and credentials.  Each has a
specification, the operations that it knows, those of them that carry a document, and the one that
ends the life of the subject.  A subject is valid, ended, or not found.
-/

set_option autoImplicit false

namespace DidRegistry

/-- The kinds of subjects. -/
inductive Variety where
  | did
  | credential
deriving DecidableEq, Repr

namespace Variety

/-- The specification that operations have to name. -/
def specification : Variety → String
  | .did => "elastos/did/1.0"
  | .credential => "elastos/credential/1.0"

/-- The operations that carry a document. -/
def documentKinds : Variety → List String
  | .did => ["create", "update", "transfer"]
  | .credential => ["declare"]

/-- The operation that ends the life of a subject. -/
def terminalKind : Variety → String
  | .did => "deactivate"
  | .credential => "revoke"

/-- The operations that are known. -/
def kinds (v : Variety) : List String := v.documentKinds ++ [v.terminalKind]

/-- Whether an operation is known. -/
def knows (v : Variety) (kind : Text) : Bool := v.kinds.any fun k => kind = k

/-- Whether an operation carries a document. -/
def carriesDocument (v : Variety) (kind : Text) : Bool := v.documentKinds.any fun k => kind = k

/-- The member that holds the subject of a history. -/
def subjectKey : Variety → String
  | .did => "did"
  | .credential => "id"

end Variety

/-- What can be said of a subject as a whole. -/
inductive Status where
  | valid
  /-- Deactivated or revoked. -/
  | ended
  | notFound
deriving DecidableEq, Repr

namespace Status

/-- The code of a status on the wire. -/
def code : Status → Int
  | .valid => 0
  | .ended => 2
  | .notFound => 3

/-- The code that stands for expired subjects and is not used. -/
def reservedCode : Int := 1

/-- The name of a status. -/
def name (variety : Variety) : Status → String
  | .valid => "valid"
  | .ended =>
    match variety with
    | .did => "deactivated"
    | .credential => "revoked"
  | .notFound => "not_found"

/-- The status that a code stands for. -/
def ofCode? (n : Int) : Option Status :=
  if n = 0 then some .valid else if n = 2 then some .ended else if n = 3 then some .notFound else none

theorem ofCode?_code (s : Status) : ofCode? s.code = some s := by
  cases s <;> rfl

end Status

end DidRegistry
