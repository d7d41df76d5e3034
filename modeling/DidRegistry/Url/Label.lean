import DidRegistry.Unicode.Direction
import DidRegistry.Unicode.Joining
import DidRegistry.Unicode.Mark
import DidRegistry.Unicode.Normal
import DidRegistry.Unicode.Script
import DidRegistry.Url.Permitted

/-!
# Labels of host names

A label of an internationalized host name is a text in normalization form C without hyphens where they
mean something else, that does not begin with a mark, that holds permitted code points only, and whose
characters run in one direction.  Joiners and some signs are permitted between certain neighbours.
-/

set_option autoImplicit false

namespace DidRegistry.Url

open Unicode

/-- Why a text is no label of a host name. -/
inductive LabelError where
  /-- It is not formed as a label. -/
  | form
  /-- Its ASCII form is not formed as one. -/
  | undecodable
  /-- It holds a joiner between neighbours that it does not join. -/
  | joiner
  /-- It holds a joiner after a character that nothing is known of. -/
  | unknownNeighbour
  /-- It holds a code point that no label may hold. -/
  | forbidden
  /-- It holds a sign that its neighbours do not call for. -/
  | context
  /-- Its characters run in different directions. -/
  | direction
deriving DecidableEq, Repr

/-! ## Neighbours -/

/-- Whether a character that a label may hold has no name: it is one of a later version or of Tangut. -/
def isNameless (n : Nat) : Bool :=
  Unicode.direction n == .unknown || within [(0x17000, 0x187f7), (0x18d00, 0x18d08)] n

/-- Whether the nearest character that joins or stops joining joins in one of some ways. -/
def joins (ways : List Joining) (cs : List Nat) : Bool :=
  match (cs.dropWhile fun n => joining? n == some .transparent).head?.bind joining? with
  | some way => ways.contains way
  | none => false

/-- Whether a joiner may stand between the characters before it, the nearest first, and those after. -/
def joinerFits (joiner : Nat) (before after : List Nat) : Bool :=
  match before with
  | [] => false
  | c :: _ =>
    combiningClass c == viramaClass ||
      (joiner == 0x200c && !isNameless c && joins [.left, .dual] before && joins [.right, .dual] after)

/-- Whether a sign may stand between the characters before it, the nearest first, and those after: a
middle dot between two l, a Greek numeral sign before Greek, Hebrew points after Hebrew, a Katakana
middle dot in a Japanese label, and the digits of one of the two Arabic rows. -/
def signFits (sign : Nat) (before after : List Nat) : Bool :=
  if sign = 0xb7 then before.head? == some 0x6c && after.head? == some 0x6c
  else if sign = 0x375 then after.head?.any (Script.has .greek)
  else if sign = 0x5f3 ∨ sign = 0x5f4 then before.head?.any (Script.has .hebrew)
  else if sign = 0x30fb then
    (before ++ after).any fun n =>
      n != 0x30fb && (Script.has .hiragana n || Script.has .katakana n || Script.has .han n)
  else if 0x660 ≤ sign ∧ sign ≤ 0x669 then
    !(before ++ after).any fun n => 0x6f0 ≤ n && n ≤ 0x6f9
  else !(before ++ after).any fun n => 0x660 ≤ n && n ≤ 0x669

/-- The signs that need certain neighbours. -/
def isContextual (n : Nat) : Bool :=
  within [(0xb7, 0xb7), (0x375, 0x375), (0x5f3, 0x5f4), (0x660, 0x669), (0x6f0, 0x6f9),
    (0x30fb, 0x30fb)] n

/-- Refuses the first code point that may not stand where it does, after the characters before it, the
nearest first. -/
def checkPoints (before : List Nat) : List Nat → Except LabelError Unit
  | [] => .ok ()
  | n :: r =>
    if isPermitted n then checkPoints (n :: before) r
    else if n = 0x200c ∨ n = 0x200d then
      if joinerFits n before r then checkPoints (n :: before) r
      else .error (if before.head?.any isNameless then .unknownNeighbour else .joiner)
    else if isContextual n then
      if signFits n before r then checkPoints (n :: before) r else .error .context
    else .error .forbidden

/-! ## Directions -/

/-- The directions that characters may have in a label that runs from right to left. -/
def rightToLeft : List Direction :=
  [.right, .arabic, .arabicNumber, .europeanNumber, .separator, .neutral, .boundary, .mark]

/-- The directions that characters may have in a label that runs from left to right. -/
def leftToRight : List Direction :=
  [.left, .europeanNumber, .separator, .neutral, .boundary, .mark]

/-- Whether the last character that is no mark has one of some directions. -/
def endsIn (ways : List Direction) (ds : List Direction) : Bool :=
  (ds.reverse.dropWhile (· == .mark)).head?.any ways.contains

/-- Whether the directions of the characters of a label go together.  Nothing is asked where no
character runs from right to left. -/
def directionsAgree (ds : List Direction) : Bool :=
  if ds.contains .unknown then false
  else if ds.any fun d => [Direction.right, .arabic, .arabicNumber].contains d then
    match ds with
    | .right :: _ | .arabic :: _ =>
      ds.all rightToLeft.contains && endsIn [.right, .arabic, .europeanNumber, .arabicNumber] ds &&
        !(ds.contains .arabicNumber && ds.contains .europeanNumber)
    | .left :: _ => ds.all leftToRight.contains && endsIn [.left, .europeanNumber] ds
    | _ => false
  else true

/-! ## The check -/

/-- Whether hyphens stand where they mean something else: at an end, or in the third and the fourth
place. -/
def hasForeignHyphens (label : List Nat) : Bool :=
  label.head? == some 0x2d || label.getLast? == some 0x2d || (label.drop 2).take 2 == [0x2d, 0x2d]

/-- The greatest number of characters that a host name has as it is written. -/
def nameLimit : Nat := 254

/-- Refuses a text that is no label. -/
def checkLabel (label : List Nat) : Except LabelError Unit := do
  if label.isEmpty ∨ nameLimit < label.length ∨ !isComposed label ∨ hasForeignHyphens label ∨
      label.head?.any isMark then
    throw .form
  checkPoints [] label
  if !directionsAgree (label.map Unicode.direction) then throw .direction

end DidRegistry.Url
