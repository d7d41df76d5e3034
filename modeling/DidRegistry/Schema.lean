import DidRegistry.Json.Entries
import DidRegistry.Json.Literal
import DidRegistry.Report

/-!
# Schemas

What a value from outside must look like before it is read: an object with required and known
members, a string that is not empty or fits a pattern, a whole number or a number with a lower
bound.  A whole number may be written with a fraction of zero, and truth values are no numbers.

A value may have several faults; one of them is reported: the one with the shortest path, among
those the one whose path comes last, and for one path the first in the order type, required members,
members that are not known, length, pattern, bound.
-/

set_option autoImplicit false

namespace DidRegistry

/-- A pattern: how it is written, and the texts that fit it. -/
structure Pattern where
  source : String
  fits : List Char → Bool

/-- What a string must be beside a string. -/
inductive StringRule where
  | any
  | nonEmpty
  | pattern (p : Pattern)

/-- A lower bound of a number. -/
inductive LowerBound where
  | none
  | least (n : Int)
  | above (n : Int)

/-- What a value must look like. -/
inductive Schema where
  | string (rule : StringRule)
  | integer (bound : LowerBound)
  | number (bound : LowerBound)
  /-- An object; `isClosed` when no other members than `properties` are allowed. -/
  | object (required : List String) (isClosed : Bool) (properties : List (String × Schema))

namespace Schema

/-- What is wrong with a value. -/
inductive Reason where
  | wrongType (value : Json) (expected : String)
  | missing (key : String)
  | unexpected (keys : List Json)
  | empty (value : Json)
  | mismatch (value : Json) (pattern : String)
  | below (value : Json) (least : Int)
  | notAbove (value : Json) (bound : Int)
deriving DecidableEq, Repr

/-- A fault and the path to the value that has it. -/
structure Fault where
  path : List String
  reason : Reason
deriving DecidableEq, Repr

/-- The keys as literals with commas between them. -/
def listed (keys : List Json) : String :=
  ", ".intercalate (keys.map Json.literal)

/-- What a reason says. -/
def Reason.message : Reason → String
  | .wrongType v expected => v.literal ++ " is not of type " ++ Text.quoted expected
  | .missing key => Text.quoted key ++ " is a required property"
  | .unexpected keys =>
    "Additional properties are not allowed (" ++ listed keys ++
      (if keys.length = 1 then " was unexpected)" else " were unexpected)")
  | .empty v => v.literal ++ " should be non-empty"
  | .mismatch v pattern => v.literal ++ " does not match " ++ Text.quoted pattern
  | .below v least => v.literal ++ " is less than the minimum of " ++ (Json.int least).literal
  | .notAbove v bound =>
    v.literal ++ " is less than or equal to the minimum of " ++ (Json.int bound).literal

/-- The faults of a string. -/
def StringRule.faults (v : Json) (s : List Char) : StringRule → List Reason
  | .any => []
  | .nonEmpty => if s.isEmpty then [.empty v] else []
  | .pattern p => if p.fits s then [] else [.mismatch v p.source]

/-- The fault of a number below its bound. -/
def LowerBound.faults (v : Json) (n : Number) : LowerBound → List Reason
  | .none => []
  | .least m => if n.lt (.int m) then [.below v m] else []
  | .above m => if n.le (.int m) then [.notAbove v m] else []

/-- The number that a value is; truth values are none. -/
def properNumber? : Json → Option Number
  | .int n => some (.int n)
  | .real x => some (.real x)
  | _ => none

/-- Whether a number is whole. -/
def isWhole : Number → Bool
  | .real x => x.isWhole
  | _ => true

/-- The keys that are not among the known ones, in the order of their texts. -/
def unknownKeys (known : List String) (keys : List Json) : List Json :=
  (keys.filter fun k => !known.any fun n => k = .str n).mergeSort fun a b => a.text.le b.text

/-- The fault of an object with members that are not known. -/
def unexpectedFaults (path : List String) (unknown : List Json) : List Fault :=
  if unknown.isEmpty then [] else [⟨path, .unexpected unknown⟩]

mutual

/-- All faults of a value, in the order in which they are looked for. -/
def faults (path : List String) : Schema → Json → List Fault
  | .string rule, v =>
    match v with
    | .str s => (StringRule.faults v s.chars rule).map (Fault.mk path)
    | _ => [⟨path, .wrongType v "string"⟩]
  | .integer bound, v =>
    match properNumber? v with
    | some n =>
      (if isWhole n then [] else [⟨path, .wrongType v "integer"⟩]) ++
        (LowerBound.faults v n bound).map (Fault.mk path)
    | none => [⟨path, .wrongType v "integer"⟩]
  | .number bound, v =>
    match properNumber? v with
    | some n => (LowerBound.faults v n bound).map (Fault.mk path)
    | none => [⟨path, .wrongType v "number"⟩]
  | .object required isClosed properties, v =>
    match v with
    | .obj ms =>
      let absent := required.filter fun (k : String) => (Json.Members.get? ms k).isNone
      let unknown := unknownKeys (properties.map (·.1)) (ms.map fun m => .str m.1)
      absent.map (fun (k : String) => ⟨path, .missing k⟩) ++
        (if isClosed then unexpectedFaults path unknown else []) ++
        memberFaults path properties ms
    | _ => [⟨path, .wrongType v "object"⟩]

/-- All faults of the members that are known. -/
def memberFaults (path : List String) : List (String × Schema) → Json.Members → List Fault
  | [], _ => []
  | (key, schema) :: r, ms =>
    (match Json.Members.get? ms key with
      | some v => faults (path ++ [key]) schema v
      | none => []) ++ memberFaults path r ms

end

/-- Whether `a` is reported rather than `b`, which was found earlier. -/
def outranks (a b : Fault) : Bool :=
  a.path.length < b.path.length || (a.path.length == b.path.length && decide (b.path < a.path))

/-- The fault that is reported. -/
def firstFault (schema : Schema) (v : Json) : Option Fault :=
  match schema.faults [] v with
  | [] => none
  | f :: r => some (r.foldl (fun best g => if outranks g best then g else best) f)

/-- The fault that is reported of a mapping, whose keys need not be texts.  A key that is no text is not
known to any schema. -/
def firstFaultOf (schema : Schema) (entries : Entries) : Option Fault :=
  match schema, firstFault schema (.obj entries.members) with
  | _, some ⟨[], .missing key⟩ => some ⟨[], .missing key⟩
  | .object _ true properties, fault =>
    match unexpectedFaults [] (unknownKeys (properties.map (·.1)) (entries.map (·.1))) with
    | f :: _ => some f
    | [] => fault
  | _, fault => fault

/-- The path of a fault, its keys joined. -/
def Fault.place (separator : String) (f : Fault) : String :=
  if f.path.isEmpty then "<root>" else separator.intercalate f.path

/-- The report of a fault alone. -/
def Fault.report (_ : Fault) : Report := .silent .schema

end Schema

end DidRegistry
