/-
Spans of time in whole nanoseconds.

`ofSeconds?` rounds a number of seconds to the nearest nanosecond, a tie to the even one, and fails on spans of `2 ^ 64`
seconds and more. `text` writes a span in the largest unit of which it holds at least one.
-/
import SqlSession.Decimal.Shortest

namespace SqlSession

/-- a span of time -/
structure Duration where
  nanos : Nat
  deriving DecidableEq, Repr

namespace Duration

def ofMillis (n : Nat) : Duration := ⟨n * 1000000⟩

/-- whole seconds -/
def seconds (d : Duration) : Nat := d.nanos / 1000000000

/-- nanoseconds beyond the whole seconds -/
def subsecond (d : Duration) : Nat := d.nanos % 1000000000

/-- the quotient rounded to the nearest whole number, a tie to the even one -/
def roundHalfEven (num den : Nat) : Nat :=
  let below := num / den
  let rest := 2 * (num % den)
  if rest < den then below
  else if den < rest then below + 1
  else if below % 2 = 0 then below else below + 1

/-- the span of a positive number of seconds; none from `2 ^ 64` seconds on -/
def ofSeconds? (secs : Float) : Option Duration :=
  match Decimal.parts? secs with
  | none => none
  | some p =>
    let d := roundHalfEven (p.mantissa * Nat.pow 2 p.exponent.toNat * 1000000000) (Nat.pow 2 (-p.exponent).toNat)
    if d / 1000000000 < 18446744073709551616 then some ⟨d⟩ else none

/-- a whole number of units and the digits of a fraction of `places` places without zeros at the end -/
def unitText (whole fraction places : Nat) (unit : String) : String :=
  let digits := (toString fraction).toList
  let padded := List.replicate (places - digits.length) '0' ++ digits
  let kept := (padded.reverse.dropWhile (· == '0')).reverse
  toString whole ++ (if kept.isEmpty then "" else "." ++ String.ofList kept) ++ unit

def text (d : Duration) : String :=
  if 1000000000 ≤ d.nanos then unitText d.seconds d.subsecond 9 "s"
  else if 1000000 ≤ d.nanos then unitText (d.nanos / 1000000) (d.nanos % 1000000) 6 "ms"
  else if 1000 ≤ d.nanos then unitText (d.nanos / 1000) (d.nanos % 1000) 3 "µs"
  else unitText d.nanos 0 0 "ns"

end Duration

end SqlSession
