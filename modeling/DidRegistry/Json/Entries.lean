import DidRegistry.Json.Canonical
import DidRegistry.Json.Equality
import DidRegistry.Report

/-!
# Entries

Settings and transactions are mappings.  Most are given as an object; a list of entries will do too,
each entry a list of a key and a value, a text of two characters, or an object with two keys.  A key is
any value but a list or an object.  Of two entries whose keys count as equal the first gives the key
and the place, the last the value.
-/

set_option autoImplicit false

namespace DidRegistry

/-- The entries of a mapping, in order. -/
abbrev Entries := List (Json × Json)

/-- Why a value is no mapping. -/
inductive EntriesError where
  /-- It, or one of its entries, has no parts, or a key cannot be one. -/
  | wrongType
  /-- An entry has not two parts. -/
  | wrongLength
deriving DecidableEq, Repr

/-- The report of the error. -/
def EntriesError.report : EntriesError → Report
  | .wrongType => .silent .wrongType
  | .wrongLength => .silent .value

namespace Entries

/-- Sets an entry: in its place when the key is there, at the end when it is new. -/
def put (key value : Json) : Entries → Entries
  | [] => [(key, value)]
  | (k, v) :: r => if k.equals key then (k, value) :: r else (k, v) :: put key value r

/-- The two parts of an entry. -/
def pairOf : Json → Except EntriesError (Json × Json)
  | .arr [k, v] => .ok (k, v)
  | .obj [(k, _), (l, _)] => .ok (.str k, .str l)
  | .str ⟨[p, q]⟩ => .ok (.str ⟨[p]⟩, .str ⟨[q]⟩)
  | .arr _ | .obj _ | .str _ => .error .wrongLength
  | _ => .error .wrongType

/-- Whether a value can be a key. -/
def isKey : Json → Bool
  | .arr _ | .obj _ => false
  | _ => true

/-- Takes one more entry. -/
def add (es : Entries) (entry : Json) : Except EntriesError Entries :=
  match pairOf entry with
  | .error e => .error e
  | .ok (k, v) => if isKey k then .ok (put k v es) else .error .wrongType

/-- The entries of a mapping that a value gives. -/
def ofJson : Json → Except EntriesError Entries
  | .obj ms => .ok (ms.map fun m => (.str m.1, m.2))
  | .arr items => items.foldlM add []
  | .str t => if t.isEmpty then .ok [] else .error .wrongLength
  | _ => .error .wrongType

/-- The entries whose keys are texts. -/
def members (es : Entries) : Json.Members :=
  es.filterMap fun
    | (.str k, v) => some (k, v)
    | _ => none

/-- The entries as members of an object, a key that is no text by its JSON text. -/
def toMembers (es : Entries) : Json.Members :=
  es.map fun
    | (.str k, v) => (k, v)
    | (k, v) => (Text.ofChars k.render, v)

end Entries

end DidRegistry
