import DidRegistry.Number.Basic
import DidRegistry.Text.Basic
import DidRegistry.Text.Digit

/-!
# JSON values

The values that replies, documents, payloads and settings are made of.  Whole numbers are exact and
kept apart from binary numbers, and the members of an object keep their order.  Strings and keys may
hold lone halves of surrogate pairs, which a JSON text can spell by an escape.

A whole number is of any size, but no text is read as one of more than 4300 digits, and one of more
digits cannot be written or shown in decimal.
-/

set_option autoImplicit false

namespace DidRegistry

/-- A JSON value. -/
inductive Json where
  | null
  | bool (b : Bool)
  | int (n : Int)
  | real (x : Binary64)
  | str (s : Text)
  | arr (items : List Json)
  | obj (members : List (Text × Json))
deriving Repr, Inhabited

namespace Json

mutual

/-- Equality of values, constructor by constructor. -/
def decEq : (a b : Json) → Decidable (a = b)
  | .null, .null => isTrue rfl
  | .bool a, .bool b =>
    if h : a = b then isTrue (by rw [h]) else isFalse (by intro e; cases e; exact h rfl)
  | .int a, .int b =>
    if h : a = b then isTrue (by rw [h]) else isFalse (by intro e; cases e; exact h rfl)
  | .real a, .real b =>
    if h : a = b then isTrue (by rw [h]) else isFalse (by intro e; cases e; exact h rfl)
  | .str a, .str b =>
    if h : a = b then isTrue (by rw [h]) else isFalse (by intro e; cases e; exact h rfl)
  | .arr a, .arr b =>
    match decEqItems a b with
    | isTrue h => isTrue (by rw [h])
    | isFalse h => isFalse (by intro e; cases e; exact h rfl)
  | .obj a, .obj b =>
    match decEqMembers a b with
    | isTrue h => isTrue (by rw [h])
    | isFalse h => isFalse (by intro e; cases e; exact h rfl)
  | .null, .bool _ | .null, .int _ | .null, .real _ | .null, .str _ | .null, .arr _ | .null, .obj _
  | .bool _, .null | .bool _, .int _ | .bool _, .real _ | .bool _, .str _ | .bool _, .arr _
  | .bool _, .obj _ | .int _, .null | .int _, .bool _ | .int _, .real _ | .int _, .str _
  | .int _, .arr _ | .int _, .obj _ | .real _, .null | .real _, .bool _ | .real _, .int _
  | .real _, .str _ | .real _, .arr _ | .real _, .obj _ | .str _, .null | .str _, .bool _
  | .str _, .int _ | .str _, .real _ | .str _, .arr _ | .str _, .obj _ | .arr _, .null
  | .arr _, .bool _ | .arr _, .int _ | .arr _, .real _ | .arr _, .str _ | .arr _, .obj _
  | .obj _, .null | .obj _, .bool _ | .obj _, .int _ | .obj _, .real _ | .obj _, .str _
  | .obj _, .arr _ => isFalse (by intro e; cases e)

/-- Equality of item lists. -/
def decEqItems : (a b : List Json) → Decidable (a = b)
  | [], [] => isTrue rfl
  | x :: xs, y :: ys =>
    match decEq x y, decEqItems xs ys with
    | isTrue h, isTrue g => isTrue (by rw [h, g])
    | isFalse h, _ => isFalse (by intro e; cases e; exact h rfl)
    | _, isFalse g => isFalse (by intro e; cases e; exact g rfl)
  | [], _ :: _ | _ :: _, [] => isFalse (by intro e; cases e)

/-- Equality of member lists. -/
def decEqMembers : (a b : List (Text × Json)) → Decidable (a = b)
  | [], [] => isTrue rfl
  | (k, x) :: xs, (l, y) :: ys =>
    if hk : k = l then
      match decEq x y, decEqMembers xs ys with
      | isTrue h, isTrue g => isTrue (by rw [hk, h, g])
      | isFalse h, _ => isFalse (by intro e; cases e; exact h rfl)
      | _, isFalse g => isFalse (by intro e; cases e; exact g rfl)
    else isFalse (by intro e; cases e; exact hk rfl)
  | [], _ :: _ | _ :: _, [] => isFalse (by intro e; cases e)

end

instance : DecidableEq Json := decEq

/-- The members of an object, in order. -/
abbrev Members := List (Text × Json)

/-- The value of the member `key`. -/
def Members.get? (ms : Members) (key : Text) : Option Json := ms.lookup key

/-- Sets a member: in its place when the key is there, at the end when it is new. -/
def Members.put (key : Text) (value : Json) : Members → Members
  | [] => [(key, value)]
  | (k, v) :: r => if k = key then (k, value) :: r else (k, v) :: Members.put key value r

/-- The value of a member of an object; a value of another kind has no members. -/
def get? (v : Json) (key : Text) : Option Json :=
  match v with
  | .obj ms => Members.get? ms key
  | _ => none

/-- Whether the value is a string. -/
def isString : Json → Bool
  | .str _ => true
  | _ => false

/-- The name of the kind of a value, as messages give it. -/
def kindName : Json → String
  | .null => "NoneType"
  | .bool _ => "bool"
  | .int _ => "int"
  | .real _ => "float"
  | .str _ => "str"
  | .arr _ => "list"
  | .obj _ => "dict"

/-- The number that a value is, truth values included. -/
def number? : Json → Option Number
  | .bool b => some (.flag b)
  | .int n => some (.int n)
  | .real x => some (.real x)
  | _ => none

/-- A number as a value. -/
def ofNumber : Number → Json
  | .int n => .int n
  | .flag b => .bool b
  | .real x => .real x

/-- Whether a value stands for something: not null, false, zero or empty. -/
def isPresent : Json → Bool
  | .null => false
  | .bool b => b
  | .int n => n != 0
  | .real (.finite _ m _) => m != 0
  | .real _ => true
  | .str s => !s.isEmpty
  | .arr xs => !xs.isEmpty
  | .obj ms => !ms.isEmpty

/-- The greatest number of digits of a whole number that is read or written in decimal. -/
def digitLimit : Nat := 4300

/-- A whole number with few enough digits to be read and written. -/
def IsShort (n : Int) : Prop := (Text.decimal n.natAbs).length ≤ digitLimit

instance : DecidablePred IsShort := fun n => Nat.decLe (Text.decimal n.natAbs).length digitLimit

mutual

/-- Whether every whole number in a value has few enough digits. -/
def allShort : Json → Bool
  | .int n => decide (IsShort n)
  | .arr items => allShortItems items
  | .obj members => allShortMembers members
  | _ => true

/-- Whether every whole number in the items has few enough digits. -/
def allShortItems : List Json → Bool
  | [] => true
  | x :: r => allShort x && allShortItems r

/-- Whether every whole number in the members has few enough digits. -/
def allShortMembers : List (Text × Json) → Bool
  | [] => true
  | (_, x) :: r => allShort x && allShortMembers r

end

theorem allShortItems_iff {items : List Json} :
    allShortItems items = true ↔ ∀ x ∈ items, x.allShort = true := by
  induction items with
  | nil => simp [allShortItems]
  | cons x r ih => simp [allShortItems, ih]

theorem allShortMembers_iff {ms : Members} :
    allShortMembers ms = true ↔ ∀ m ∈ ms, m.2.allShort = true := by
  induction ms with
  | nil => simp [allShortMembers]
  | cons m r ih => simp [allShortMembers, ih]

/-- A text, or null when there is none. -/
def ofText? : Option Text → Json
  | some s => .str s
  | none => .null

/-- A number, or null when there is none. -/
def ofNumber? : Option Number → Json
  | some n => ofNumber n
  | none => .null

end Json

end DidRegistry
