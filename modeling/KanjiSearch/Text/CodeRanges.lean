/-!
# Ranges of code points

A character property is a list of ranges of code points in ascending order, both ends included.
-/

namespace KanjiSearch

/-- Ranges of code points in ascending order. -/
abbrev CodeRanges := List (Nat × Nat)

/-- Whether `c` lies in one of the ranges; the search ends at the first range above `c`. -/
def CodeRanges.includes : CodeRanges → Nat → Bool
  | [], _ => false
  | (first, last) :: rest, c => if c < first then false else c ≤ last || CodeRanges.includes rest c

end KanjiSearch
