/-!
# Sets of characters

A property of characters is kept as a list of ranges of code points, ends included.
-/

namespace DashboardGenerator.Text

/-- Ranges of code points, ends included. -/
abbrev CodeRanges := List (Nat × Nat)

/-- The character lies in one of the ranges. -/
def CodeRanges.contains (ranges : CodeRanges) (character : Char) : Bool :=
  ranges.any fun (first, last) => first ≤ character.toNat && character.toNat ≤ last

end DashboardGenerator.Text
