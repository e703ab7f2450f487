/-
Whole numbers of 64 bits as binary64 numbers.
-/

namespace SqlSession.Decimal

/-- the binary64 number nearest to a whole number of 64 bits -/
def nearest (n : Int) : Float :=
  if 0 ≤ n then n.toNat.toUInt64.toFloat else -n.natAbs.toUInt64.toFloat

end SqlSession.Decimal
