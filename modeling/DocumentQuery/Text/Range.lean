/-!
# Sets of characters given by code point ranges

A character property outside ASCII is a list of closed ranges of code points.
-/

namespace DocumentQuery.Text

/-- Whether a code point lies in one of the closed ranges. -/
def inRanges (ranges : List (Nat × Nat)) (code : Nat) : Bool :=
  ranges.any fun range => range.1 ≤ code && code ≤ range.2

end DocumentQuery.Text
