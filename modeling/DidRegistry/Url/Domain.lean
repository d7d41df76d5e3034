import DidRegistry.Unicode.LowerCase
import DidRegistry.Url.Label
import DidRegistry.Url.Punycode

/-!
# Internationalized host names

A host name is a sequence of labels with dots between them, of which the last one may be empty.  A label
that is not ASCII is written as `xn--` and its ASCII form, and such a label stands for the text that it
is the form of.
-/

set_option autoImplicit false

namespace DidRegistry.Url.Domain

/-- What begins a label that stands for another text. -/
def mark : List Char := ['x', 'n', '-', '-']

/-- The dots of host names. -/
def isDot (n : Nat) : Bool := [0x2e, 0x3002, 0xff0e, 0xff61].contains n

/-- The labels of a name, and whether a dot stands at its end. -/
def labels (name : List Nat) : List (List Nat) × Bool :=
  let ls := pieces isDot name
  if ls.getLast? == some [] then (ls.dropLast, true) else (ls, false)

/-- Whether a text is ASCII. -/
def isAscii (label : List Nat) : Bool := label.all (· < 128)

/-- Refuses an ASCII label that is no label or does not stand for one. -/
def checkAscii (label : List Char) : Except LabelError Unit :=
  let label := label.map Char.toLower
  if mark.isPrefixOf label then
    let form := label.drop mark.length
    if form.isEmpty ∨ form.getLast? = some '-' then .error .form
    else
      match Punycode.decode? form with
      | some text => checkLabel text
      | none => .error .undecodable
  else checkLabel (label.map Char.toNat)

/-- Refuses a name with a label that is none, the first of them first. -/
def check (name : List Nat) : Except LabelError Unit :=
  if nameLimit < name.length ∨ name.isEmpty then .error .form
  else
    (labels name).1.forM fun label =>
      if isAscii label then checkAscii (label.map Char.ofNat) else checkLabel label

/-- The greatest number of characters of a label in ASCII. -/
def labelLimit : Nat := 63

/-- A label in ASCII. -/
def encodeLabel (label : List Nat) : Except LabelError (List Char) := do
  let form ← if isAscii label then
      (checkAscii (label.map Char.ofNat)).map fun _ => label.map Char.ofNat
    else (checkLabel label).map fun _ => mark ++ Punycode.encode label
  if labelLimit < form.length then throw .form
  return form

/-- A name in ASCII, in lower case. -/
def encode (name : List Nat) : Except LabelError (List Char) := do
  let name := Unicode.lower name
  if nameLimit < name.length ∨ name.isEmpty then throw .form
  let (ls, hasEnd) := labels name
  let forms ← ls.mapM encodeLabel
  let form := ['.'].intercalate forms ++ if hasEnd then ['.'] else []
  if nameLimit - (if hasEnd then 0 else 1) < form.length then throw .form
  return form

end DidRegistry.Url.Domain
