import DidRegistry.Json.Literal
import DidRegistry.Report
import DidRegistry.Text.Numeral

/-!
# Whole numbers out of values

Error codes and times are whole numbers, but a value may give one as a binary number, whose fraction
is dropped, as a truth value, or as a text with a base ten numeral.
-/

set_option autoImplicit false

namespace DidRegistry

/-- The report of a text that is no whole number. -/
def Text.Numeral.Error.report : Text.Numeral.Error → Report
  | .notANumeral text => .plain .value (say (fault 10 text))
  | .tooLong => .silent .value

/-- Why a value is no whole number. -/
inductive WholeError where
  | numeral (error : Text.Numeral.Error)
  /-- It is the value that is no number. -/
  | notANumber
  | infinite
  /-- It is neither a number nor a text. -/
  | wrongType
deriving DecidableEq, Repr

/-- The report of a value that is no whole number. -/
def WholeError.report : WholeError → Report
  | .numeral e => e.report
  | .notANumber => .silent .value
  | .infinite => .silent .outOfRange
  | .wrongType => .silent .wrongType

/-- The whole number that a value stands for. -/
def Json.toWhole : Json → Except WholeError Int
  | .int n => .ok n
  | .bool b => .ok (Number.ofFlag b)
  | .real .nan => .error .notANumber
  | .real (.infinity _) => .error .infinite
  | .real (.finite negative m e) => .ok (Binary64.wholePart negative m e)
  | .str s => (Text.Numeral.decimal? s).mapError .numeral
  | .null | .arr _ | .obj _ => .error .wrongType

end DidRegistry
