import DidRegistry.Crypto.Keccak
import DidRegistry.Json.Literal
import DidRegistry.Platform
import DidRegistry.Report
import DidRegistry.Text.Hex
import DidRegistry.Text.Utf8

/-!
# Accounts

An account is named by forty hexadecimal digits, with or without `0x` in front; whether the case of the
letters matters is up to the platform.  It is written with `0x` and a checksum: a letter is upper-case
when the digit at its place in the hash of the lower-case digits is 8 or more.
-/

set_option autoImplicit false

namespace DidRegistry

/-- An account: its forty digits in lower case. -/
structure Address where
  digits : List Char
deriving DecidableEq, Repr

namespace Address

/-- The text without `0x` in front. -/
def dropMark : List Char → List Char
  | '0' :: x :: r => if x = 'x' ∨ x = 'X' then r else '0' :: x :: r
  | s => s

/-- The account that a value names: its digits, in whatever case they are written. -/
def ofJson? [Platform] : Json → Option Address
  | .str t => if Platform.names t.chars then some ⟨(dropMark t.chars).map Char.toLower⟩ else none
  | _ => none

/-- A digit under the checksum digit at its place. -/
def checkedDigit (c mark : Char) : Char :=
  if 8 ≤ (Text.hexDigit? mark).getD 0 then c.toUpper else c

/-- The text of an account, with its checksum. -/
def toText (a : Address) : String :=
  let marks := Text.Hex.encode (Keccak.hash (Text.Utf8.encode a.digits))
  "0x" ++ String.ofList (List.zipWith checkedDigit a.digits marks)

end Address

/-- Why there is no account: the value names none. -/
structure AccountError where
  value : Json
deriving DecidableEq, Repr

/-- The report of the error. -/
def AccountError.report (e : AccountError) : Report :=
  (Report.plain .value (say ("not a valid account address: " ++ e.value.literal))).showing [e.value]

/-- The account that a value names. -/
def Address.ofJson [Platform] (v : Json) : Except AccountError Address :=
  match ofJson? v with
  | some a => .ok a
  | none => .error ⟨v⟩

end DidRegistry
