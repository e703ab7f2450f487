/-
Texts of binary64 numbers.

A `Style` tells how the shortest decimal of a number is written out: where positional notation ends, whether a whole
number keeps a point, and which way a tie goes.
-/
import SqlSession.Decimal.Shortest

namespace SqlSession.Decimal

structure Style where
  tie : Tie
  /-- bounds of the count of digits in front of the point, the lower one excluded, outside which an exponent is
  written; none for positional notation always -/
  positional : Option (Int × Int)
  /-- a whole number is written with a point and a zero -/
  pointZero : Bool
  deriving DecidableEq, Repr

def zeros (n : Nat) : String :=
  String.ofList (List.replicate n '0')

/-- digits with a point among, in front of or behind them -/
def positionalText (style : Style) (n : Number) : String :=
  let digits := toString n.digits
  let point : Int := digits.length + n.exponent
  if 0 ≤ n.exponent then
    digits ++ zeros n.exponent.toNat ++ if style.pointZero then ".0" else ""
  else if 0 < point then
    String.ofList (digits.toList.take point.toNat) ++ "." ++ String.ofList (digits.toList.drop point.toNat)
  else
    "0." ++ zeros (-point).toNat ++ digits

/-- one digit in front of the point and an exponent of ten with its sign -/
def exponentText (n : Number) : String :=
  let digits := (toString n.digits).toList
  let rest := digits.drop 1
  let exponent : Int := digits.length + n.exponent - 1
  String.ofList (digits.take 1) ++ (if rest.isEmpty then "" else "." ++ String.ofList rest) ++
    (if exponent < 0 then "e-" else "e+") ++ toString exponent.natAbs

/-- the text of a positive decimal -/
def numberText (style : Style) (n : Number) : String :=
  let point : Int := (toString n.digits).length + n.exponent
  match style.positional with
  | none => positionalText style n
  | some (least, most) => if least < point ∧ point ≤ most then positionalText style n else exponentText n

/-- the text of a number in this style -/
def text (style : Style) (x : Float) : String :=
  match parts? x with
  | none => if x.isNaN then "NaN" else if x < 0 then "-inf" else "inf"
  | some p =>
    let sign := if p.negative then "-" else ""
    if p.mantissa = 0 then sign ++ (if style.pointZero then "0.0" else "0")
    else sign ++ numberText style (shortest style.tie p)

end SqlSession.Decimal
