/-!
# Pieces

The pieces of a list between its separators, one more than there are separators, and the two sides of
the last separator.

## Results

* `pieces_ne_nil` — there is always a piece.
* `flatten_pieces` — without its separators a list is its pieces one after the other.
-/

set_option autoImplicit false

namespace DidRegistry

variable {α : Type}

/-- The pieces of a list between its separators. -/
def pieces (isSeparator : α → Bool) : List α → List (List α)
  | [] => [[]]
  | a :: r =>
    match pieces isSeparator r with
    | [] => [[a]]
    | first :: rest => if isSeparator a then [] :: first :: rest else (a :: first) :: rest

/-- What stands before the last separator, nothing if there is none, and what stands after it. -/
def splitLast (isSeparator : α → Bool) (s : List α) : List α × List α :=
  let after := (s.reverse.takeWhile fun a => !isSeparator a).reverse
  (s.take (s.length - after.length - 1), after)

/-- There is always a piece. -/
theorem pieces_ne_nil (isSeparator : α → Bool) (s : List α) : pieces isSeparator s ≠ [] := by
  cases s with
  | nil => simp [pieces]
  | cons a r =>
    rw [pieces]
    split
    · simp
    · split <;> simp

/-- Without its separators a list is its pieces one after the other. -/
theorem flatten_pieces (isSeparator : α → Bool) (s : List α) :
    (pieces isSeparator s).flatten = s.filter fun a => !isSeparator a := by
  induction s with
  | nil => rfl
  | cons a r ih =>
    rw [pieces]
    split
    · rename_i h
      exact absurd h (pieces_ne_nil isSeparator r)
    · rename_i first rest h
      rw [h] at ih
      cases hs : isSeparator a <;> simp_all

end DidRegistry
