/-
Shifts of a date by a short text such as `-1d`, `+ 30 m` or `2Y`.

The text is searched for a sign, a number and a unit letter, each but the number optional and with one space allowed
around the number; what stands in front of the first number that fits and behind its unit is not looked at. A text
without a number shifts nothing.
-/
import SqlSession.Error

namespace SqlSession.Query.Interval

/-- a shift as it was written -/
structure Shift where
  sign : Option Char
  amount : List Char
  /-- the letter behind the number -/
  letter : Option Char
  deriving DecidableEq, Repr

/-- unit letters and the units they stand for -/
def units : List (Char × String) :=
  [('s', "second"), ('m', "minute"), ('h', "hour"), ('d', "day"), ('M', "month"), ('Y', "year")]

/-- the characters behind one space, if there is one -/
def dropSpace : List Char → List Char
  | ' ' :: cs => cs
  | cs => cs

/-- the sign in front and what follows it -/
def splitSign : List Char → Option Char × List Char
  | '+' :: cs => (some '+', cs)
  | '-' :: cs => (some '-', cs)
  | cs => (none, cs)

/-- a shift at the very beginning of the characters -/
def atStart? (cs : List Char) : Option Shift :=
  let (sign, cs) := splitSign cs
  let cs := dropSpace cs
  let amount := cs.takeWhile Char.isDigit
  if amount.isEmpty then none
  else
    let rest := dropSpace (cs.drop amount.length)
    some ⟨sign, amount, rest.head?.filter Char.isAlpha⟩

/-- the first shift in the characters -/
def find? : List Char → Option Shift
  | [] => none
  | c :: cs => (atStart? (c :: cs)).or (find? cs)

/-- `base` shifted by the text; the text is named in the error about an unknown unit -/
def apply (diff : Option String) (base : String) : Except Error String :=
  match diff.bind fun diff => (find? diff.toList).map fun shift => (diff, shift) with
  | none => .ok base
  | some (diff, shift) =>
    match units.lookup (shift.letter.getD 'd') with
    | none => .error (.invalidArgument ("invalid interval type in '" ++ diff ++ "'"))
    | some unit =>
      .ok (base ++ " " ++ (shift.sign.getD '+').toString ++ " interval " ++ String.ofList shift.amount ++ " " ++ unit)

end SqlSession.Query.Interval
