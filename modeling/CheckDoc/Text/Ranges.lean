/-!
# Classes of characters by ranges

A class of characters outside ASCII is an ascending list of ranges of code points, each given by
its first and its last member.
-/

namespace CheckDoc.Text

/-- Whether `n` lies in one of the ranges. -/
def inRanges (ranges : List (Nat × Nat)) (n : Nat) : Bool :=
  ranges.any fun range => range.1 ≤ n && n ≤ range.2

end CheckDoc.Text
