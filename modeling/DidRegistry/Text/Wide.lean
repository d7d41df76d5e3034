import DidRegistry.Text.Utf8

/-!
# UTF-16 and UTF-32

The encodings with units of two and four bytes, in either byte order.  A unit that is cut short and a
value above U+10FFFF are refused; a surrogate without its partner is a point of its own.
-/

set_option autoImplicit false

namespace DidRegistry.Text.Wide

/-- The order of the bytes of one unit. -/
inductive ByteOrder where
  | big
  | little
deriving DecidableEq, Repr

/-- The number that a unit's bytes stand for. -/
def unit (order : ByteOrder) (bytes : List UInt8) : Nat :=
  let ordered := match order with
    | .big => bytes
    | .little => bytes.reverse
  ordered.foldl (fun n b => n * 0x100 + b.toNat) 0

/-- The bytes in units of two. -/
def units16 (order : ByteOrder) : List UInt8 → Option (List Nat)
  | [] => some []
  | [_] => none
  | a :: b :: r => (units16 order r).map (unit order [a, b] :: ·)

/-- The bytes in units of four. -/
def units32 (order : ByteOrder) : List UInt8 → Option (List Nat)
  | [] => some []
  | a :: b :: c :: d :: r => (units32 order r).map (unit order [a, b, c, d] :: ·)
  | _ => none

/-- The points of 16-bit units: two surrogates that fit make one character. -/
def ofUnits16 : List Nat → Option (List Point)
  | [] => some []
  | [u] => (Point.ofCode? u).map ([·])
  | u :: v :: r =>
    if 0xd800 ≤ u ∧ u < 0xdc00 ∧ 0xdc00 ≤ v ∧ v < 0xe000 then
      (ofUnits16 r).map (.char (Char.ofNat (0x10000 + (u - 0xd800) * 0x400 + (v - 0xdc00))) :: ·)
    else (Point.ofCode? u).bind fun p => (ofUnits16 (v :: r)).map (p :: ·)

/-- The points of UTF-16 bytes. -/
def decode16 (order : ByteOrder) (bytes : List UInt8) : Option (List Point) :=
  (units16 order bytes).bind ofUnits16

/-- The points of UTF-32 bytes. -/
def decode32 (order : ByteOrder) (bytes : List UInt8) : Option (List Point) :=
  (units32 order bytes).bind fun us => us.mapM Point.ofCode?

end DidRegistry.Text.Wide
