/-
Sets of characters given by ranges of code points.
-/

namespace SqlSession.Text

/-- whether a code point lies in one of the ranges, ends included -/
def inRanges (ranges : List (Nat × Nat)) (code : Nat) : Bool :=
  ranges.any fun range => range.1 ≤ code && code ≤ range.2

end SqlSession.Text
