/-!
# Keccak-256

The hash that names the entry point of the registry contract and gives addresses their letter
case: the sponge over the permutation of 25 lanes of 64 bits, with a rate of 136 bytes and the
padding bits `1 0 ... 0 1`.
-/

set_option autoImplicit false

namespace DidRegistry.Keccak

/-- The state: lane `(x, y)` at `x + 5 * y`. -/
abbrev State := Array UInt64

/-- The lane at an index. -/
def lane (s : State) (i : Nat) : UInt64 := s.getD i 0

/-- The constants of the 24 rounds. -/
def roundConstants : List UInt64 := [
  0x0000000000000001, 0x0000000000008082, 0x800000000000808a, 0x8000000080008000,
  0x000000000000808b, 0x0000000080000001, 0x8000000080008081, 0x8000000000008009,
  0x000000000000008a, 0x0000000000000088, 0x0000000080008009, 0x000000008000000a,
  0x000000008000808b, 0x800000000000008b, 0x8000000000008089, 0x8000000000008003,
  0x8000000000008002, 0x8000000000000080, 0x000000000000800a, 0x800000008000000a,
  0x8000000080008081, 0x8000000000008080, 0x0000000080000001, 0x8000000080008008]

/-- How far each lane is rotated. -/
def rotations : List UInt64 := [
  0, 1, 62, 28, 27, 36, 44, 6, 55, 20, 3, 10, 43, 25, 39, 41, 45, 15, 21, 8, 18, 2, 61, 56, 14]

/-- Rotation to the left. -/
def rotl (x n : UInt64) : UInt64 :=
  if n = 0 then x else (x <<< n) ||| (x >>> (64 - n))

/-- A state given lane by lane. -/
def build (f : Nat → UInt64) : State := Array.ofFn fun i : Fin 25 => f i.val

/-- Mixes the parities of the columns into every lane. -/
def theta (s : State) : State :=
  let parity := fun x => lane s x ^^^ lane s (x + 5) ^^^ lane s (x + 10) ^^^ lane s (x + 15) ^^^
    lane s (x + 20)
  let mix := Array.ofFn fun x : Fin 5 =>
    parity ((x.val + 4) % 5) ^^^ rotl (parity ((x.val + 1) % 5)) 1
  build fun i => lane s i ^^^ lane mix (i % 5)

/-- Rotates the lanes and moves them. -/
def rhoPi (s : State) : State :=
  build fun i =>
    let source := (i % 5 + 3 * (i / 5)) % 5 + 5 * (i % 5)
    rotl (lane s source) (rotations.getD source 0)

/-- Combines each lane with the next two of its row. -/
def chi (s : State) : State :=
  build fun i =>
    let row := i / 5 * 5
    lane s i ^^^ (~~~ (lane s (row + (i + 1) % 5)) &&& lane s (row + (i + 2) % 5))

/-- One round of the permutation. -/
def round (s : State) (constant : UInt64) : State :=
  let s := chi (rhoPi (theta s))
  s.setIfInBounds 0 (lane s 0 ^^^ constant)

/-- The permutation. -/
def permute (s : State) : State := roundConstants.foldl round s

/-- The number of bytes taken at a time. -/
def rate : Nat := 136

/-- Eight bytes as a number, least significant first. -/
def word (bytes : List UInt8) : UInt64 :=
  bytes.foldr (fun b n => n <<< 8 ||| b.toUInt64) 0

/-- Mixes one block into the state. -/
def absorb (s : State) (block : List UInt8) : State :=
  permute (build fun i =>
    if i < 17 then lane s i ^^^ word ((block.drop (8 * i)).take 8) else lane s i)

/-- The padding of a message of `length` bytes: to a whole number of blocks, at least one byte. -/
def padding (length : Nat) : List UInt8 :=
  let count := rate - length % rate
  if count = 1 then [0x81] else 0x01 :: (List.replicate (count - 2) 0x00 ++ [0x80])

/-- Absorbs `count` blocks. -/
def absorbAll : (count : Nat) → State → List UInt8 → State
  | 0, s, _ => s
  | count + 1, s, bytes => absorbAll count (absorb s (bytes.take rate)) (bytes.drop rate)

/-- The bytes of a lane, least significant first. -/
def laneBytes (x : UInt64) : List UInt8 :=
  (List.range 8).map fun i => (x >>> (8 * UInt64.ofNat i)).toUInt8

/-- The hash of a message. -/
def hash (message : List UInt8) : List UInt8 :=
  let padded := message ++ padding message.length
  let s := absorbAll (padded.length / rate) (build fun _ => 0) padded
  (List.range 4).flatMap fun i => laneBytes (lane s i)

end DidRegistry.Keccak
