/-
Shortest decimals of binary64 numbers.

A positive number `mantissa · 2 ^ exponent` is the centre of an interval of reals that round to it; `shortest` is the
decimal `digits · 10 ^ exponent` in that interval whose last digit is worth most, and of two such the nearer one. The
arithmetic is exact: quarter units of the last binary place are compared with a decimal grid as whole numbers.
-/

namespace SqlSession.Decimal

/-- a finite number is `± mantissa · 2 ^ exponent` -/
structure Parts where
  negative : Bool
  mantissa : Nat
  exponent : Int
  /-- the gap below the number is half the gap above it -/
  narrow : Bool
  deriving DecidableEq, Repr

/-- the parts of a number; none for an infinity or no number -/
def parts? (x : Float) : Option Parts :=
  let bits := x.toBits.toNat
  let fraction := bits % Nat.pow 2 52
  let scale : Nat := bits / Nat.pow 2 52 % Nat.pow 2 11
  let negative := bits / Nat.pow 2 63 == 1
  if scale = 2047 then none
  else if scale = 0 then some ⟨negative, fraction, -1074, false⟩
  else some ⟨negative, Nat.pow 2 52 + fraction, scale - 1075, fraction == 0 && scale != 1⟩

/-- which of two equally near decimals is taken -/
inductive Tie where
  | up
  | even
  deriving DecidableEq, Repr

/-- the number `digits · 10 ^ exponent` -/
structure Number where
  digits : Nat
  exponent : Int
  deriving DecidableEq, Repr

/-- whole numbers `n` and `d` such that `x` quarter units of a number divided by the grid's step are `n x / d` -/
structure Grid where
  up : Nat
  down : Nat

/-- quarter units are `2 ^ (exponent - 2)`, the grid's step is `10 ^ place` -/
def Grid.at (exponent place : Int) : Grid :=
  ⟨Nat.pow 2 (exponent - 2).toNat * Nat.pow 10 (-place).toNat,
    Nat.pow 2 (2 - exponent).toNat * Nat.pow 10 place.toNat⟩

/-- whether `n` steps of the grid round to the number -/
def rounds (p : Parts) (g : Grid) (n : Nat) : Bool :=
  let low := (4 * p.mantissa - if p.narrow then 1 else 2) * g.up
  let high := (4 * p.mantissa + 2) * g.up
  if p.mantissa % 2 = 0 then low ≤ n * g.down && n * g.down ≤ high
  else low < n * g.down && n * g.down < high

/-- of the two steps around the number, the nearest that rounds to it -/
def nearest? (tie : Tie) (p : Parts) (place : Int) : Option Nat :=
  let g := Grid.at p.exponent place
  let centre := 4 * p.mantissa * g.up
  let below := centre / g.down
  match rounds p g below, rounds p g (below + 1) with
  | false, false => none
  | true, false => some below
  | false, true => some (below + 1)
  | true, true =>
    let rest := 2 * (centre - below * g.down)
    if rest < g.down then some below
    else if g.down < rest then some (below + 1)
    else match tie with
      | .up => some (below + 1)
      | .even => some (if below % 2 = 0 then below else below + 1)

/-- a power of ten above every number with this binary length -/
def topPlace (p : Parts) : Int :=
  ((p.mantissa.log2 + 1 + p.exponent) * 30103).fdiv 100000 + 1

/-- the shortest decimal of a positive number -/
def shortest (tie : Tie) (p : Parts) : Number :=
  let found := (List.range 24).findSome? fun (i : Nat) =>
    let place := topPlace p - i
    (nearest? tie p place).map fun digits => Number.mk digits place
  found.getD ⟨0, 0⟩

end SqlSession.Decimal
