import DidRegistry.Text.Digit
import DidRegistry.Text.Pieces

/-!
# Numeric addresses

A host may be given by its number: in version 4 of the protocol as four decimal numbers below 256, in
version 6 as eight groups of hexadecimal digits, of which a run of zeros may be left out and the last
two may be written as a version 4 address.
-/

set_option autoImplicit false

namespace DidRegistry.Url

/-! ## Version 4 -/

/-- Whether a character is an ASCII decimal digit. -/
def isDigit (c : Char) : Bool := (Text.asciiDigit? c).isSome

/-- Whether a text looks like a version 4 address: four runs of digits with a dot between two of them. -/
def looksNumeric (cs : List Char) : Bool :=
  let runs := pieces (· == '.') cs
  runs.length == 4 && runs.all fun run => !run.isEmpty && run.all isDigit

/-- Whether a text is a number below 256 without leading zeros. -/
def isOctet (cs : List Char) : Bool :=
  !cs.isEmpty && cs.length ≤ 3 && cs.all isDigit && (cs.length == 1 || cs.head? != some '0') &&
    cs.foldl (fun n c => n * 10 + (Text.asciiDigit? c).getD 0) 0 < 256

/-- Whether a text is a version 4 address. -/
def isVersion4 (cs : List Char) : Bool :=
  let octets := pieces (· == '.') cs
  octets.length == 4 && octets.all isOctet

/-! ## Version 6 -/

/-- Whether a text is a group of a version 6 address. -/
def isGroup (cs : List Char) : Bool :=
  !cs.isEmpty && cs.length ≤ 4 && cs.all fun c => (Text.hexDigit? c).isSome

/-- The groups of an address, with two groups in the place of a version 4 address at the end. -/
def groups? (cs : List Char) : Option (List (List Char)) :=
  let gs := pieces (· == ':') cs
  match gs.getLast? with
  | some last =>
    if last.contains '.' then
      if isVersion4 last then some (gs.dropLast ++ [['0'], ['0']]) else none
    else some gs
  | none => some gs

/-- The number of the groups on one side of the run that is left out; an empty one is the end of the
address there. -/
def sideLength? (gs : List (List Char)) : Option Nat :=
  if gs = [[]] then some 0 else if gs.all isGroup then some gs.length else none

/-- Whether groups make an address: eight of them, or at most seven around one run left out. -/
def groupsFit (gs : List (List Char)) : Bool :=
  let inner := (gs.drop 1).dropLast
  match inner.findIdx? List.isEmpty with
  | none => gs.length == 8 && gs.all isGroup
  | some i =>
    (inner.filter List.isEmpty).length == 1 &&
      match sideLength? (gs.take (i + 1)), sideLength? (gs.drop (i + 2)) with
      | some before, some after => before + after ≤ 7
      | _, _ => false

/-- Whether a text is a version 6 address.  The name of a network may follow on a percent sign. -/
def isVersion6 (cs : List Char) : Bool :=
  let (address, network) := cs.span (· != '%')
  let networkFits := match network with
    | [] => true
    | _ :: name => !name.isEmpty && !name.contains '%'
  networkFits && (groups? address).any groupsFit

end DidRegistry.Url
