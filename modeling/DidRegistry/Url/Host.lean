import DidRegistry.Url.Domain
import DidRegistry.Url.Escape
import DidRegistry.Url.Numeric

/-!
# Hosts

A host is a numeric address, a name in ASCII, or an internationalized name, which is used in its ASCII
form.  Whatever looks like a numeric address has to be one.
-/

set_option autoImplicit false

namespace DidRegistry.Url

/-- What stands between brackets, if everything does. -/
def bracketed? (cs : List Char) : Option (List Char) :=
  match cs, cs.getLast? with
  | '[' :: r, some ']' => some r.dropLast
  | _, _ => none

/-- A host as it is used: a version 6 address without its brackets. -/
def host? (ps : List Point) : Option (List Char) :=
  let cs := ps.map Point.toChar
  if looksNumeric cs then
    if isVersion4 cs then some cs else none
  else
    match bracketed? cs with
    | some address => if isVersion6 address then some address else none
    | none =>
      if cs.all fun c => c.toNat < 128 then
        some ((cs.map Char.toLower).flatMap (escapeChar escapedInHost))
      else (Domain.encode (ps.map Point.code)).toOption

end DidRegistry.Url
