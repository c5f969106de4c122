/-!
# Ranges of code points

A property of characters is given by the list of its ranges in ascending order, both ends
included.
-/

namespace Infochart.Text

/-- Whether a code point lies in one of the ranges. -/
def inRanges (ranges : List (Nat × Nat)) (n : Nat) : Bool :=
  ranges.any fun (first, last) => first ≤ n && n ≤ last

end Infochart.Text
