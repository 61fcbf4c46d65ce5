/-!
# Sets of characters as ranges

A property of characters is kept as a list of ranges of code points, both ends included.
-/

namespace Vitae.Text

def inRanges (ranges : List (Nat × Nat)) (n : Nat) : Bool :=
  ranges.any fun r => r.1 ≤ n && n ≤ r.2

end Vitae.Text
