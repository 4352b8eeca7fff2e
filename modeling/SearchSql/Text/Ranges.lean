/-!
# Sets of characters as ranges

A property of characters is given by the ranges of code points that have it, in
ascending order and without overlap.
-/

namespace SearchSql.Text

/-- Ranges of code points, first and last included, in ascending order. -/
abbrev Ranges := List (Nat × Nat)

/-- Whether a code point lies in one of the ranges; the search ends at the first
range that starts beyond it. -/
def Ranges.contains : Ranges → Nat → Bool
  | [], _ => false
  | (first, last) :: rest, n =>
    if n < first then false else n ≤ last || Ranges.contains rest n

end SearchSql.Text
