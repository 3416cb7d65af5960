/-!
# Ranges of code points

Properties of characters are kept as tables of ranges in ascending order, so that a search can
stop at the first range that lies beyond.
-/

namespace Paymaster.Unicode

/-- The first and the last code point of a range. -/
abbrev Range := Nat × Nat

/-- Whether ranges, given in ascending order, hold a code point. -/
def inRanges (n : Nat) : List Range → Bool
  | [] => false
  | (low, high) :: rest => if n < low then false else n ≤ high || inRanges n rest

/-- What a table, given in ascending order, holds for a code point. -/
def inTable {α : Type} (n : Nat) : List (Range × α) → Option α
  | [] => none
  | ((low, high), a) :: rest =>
    if n < low then none else if n ≤ high then some a else inTable n rest

end Paymaster.Unicode
