import DidRegistry.Json.Whole

/-!
# Quantities

On the wire of a node a quantity is `0x` and hexadecimal digits, the most significant one first and
no zero in front.  A node may also answer a plain whole number, or null where there is none.
-/

set_option autoImplicit false

namespace DidRegistry.Quantity

/-- Why there is no quantity. -/
inductive Error where
  /-- A number below zero has no quantity. -/
  | negative (n : Number)
  /-- A value that is no whole number has none. -/
  | wrongType
deriving DecidableEq, Repr

/-- The report of the error. -/
def Error.report : Error → Report
  | .negative n =>
    (Report.plain .value
      (say ("quantity must be >= 0, got: " ++ String.ofList n.literal))).showing [.ofNumber n]
  | .wrongType => .silent .wrongType

/-- Why a value on the wire gives no number. -/
inductive ReadError where
  /-- It is no hexadecimal quantity. -/
  | notHex (value : Json)
  /-- It starts as a quantity and does not go on as one. -/
  | notANumeral (text : Text)
deriving DecidableEq, Repr

/-- What the error says. -/
def ReadError.text : ReadError → String
  | .notHex v => "not a hex quantity: " ++ v.literal
  | .notANumeral t => Text.Numeral.fault 16 t

/-- The values that the error shows. -/
def ReadError.shown : ReadError → List Json
  | .notHex v => [v]
  | .notANumeral _ => []

/-- The report of the error. -/
def ReadError.report (e : ReadError) : Report := (Report.plain .value (say e.text)).showing e.shown

/-- The quantity of a whole number. -/
def ofNat (n : Nat) : String := "0x" ++ String.ofList (Text.hexadecimal n)

/-- The quantity of a number. -/
def ofNumber (n : Number) : Except Error String :=
  if n.lt (.int 0) then .error (.negative n)
  else
    match n.whole? with
    | some k => .ok (ofNat k.toNat)
    | none => .error .wrongType

/-- The quantity of a value. -/
def ofJson (v : Json) : Except Error String :=
  match v.number? with
  | some n => ofNumber n
  | none => .error .wrongType

/-- The number that a value on the wire gives. -/
def read : Json → Except ReadError (Option Number)
  | .null => .ok none
  | .int n => .ok (some (.int n))
  | .bool b => .ok (some (.flag b))
  | .str t =>
    match t.chars with
    | '0' :: 'x' :: _ =>
      match Text.Numeral.hexadecimal? t with
      | some n => .ok (some (.int n))
      | none => .error (.notANumeral t)
    | _ => .error (.notHex (.str t))
  | v => .error (.notHex v)

end DidRegistry.Quantity
