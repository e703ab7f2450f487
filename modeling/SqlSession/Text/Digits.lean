/-
Decimal digits and the numbers they write.
-/

namespace SqlSession.Text

def digitValue (c : Char) : Nat :=
  c.toNat - '0'.toNat

/-- the number that digits write, the first one worth most -/
def digitsValue (digits : List Char) : Nat :=
  digits.foldl (fun n c => n * 10 + digitValue c) 0

end SqlSession.Text
