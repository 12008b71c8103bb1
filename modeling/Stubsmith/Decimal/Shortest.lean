import Stubsmith.Decimal.Binary64

/-!
# The shortest decimal that reads back

Among the decimals that round to a given binary number, `shortest` finds one with the fewest digits,
and of those the one nearest to the number. The numbers that round to `m * 2 ^ q` form an interval
around it; its ends belong to it exactly if `m` is even. On the grid of decimals with `n` digits
only the two neighbours of the number can be nearest, so it is enough to test those two, for one
digit, two digits and so on; seventeen digits always suffice.
-/

namespace Stubsmith.Decimal

/-- The decimal `digits * 10 ^ exponent`. -/
structure Scaled where
  digits : Nat
  exponent : Int
  deriving DecidableEq, Repr

/-- Which neighbour is taken where both are equally near. -/
inductive Tie where
  | up
  | toEven
  deriving DecidableEq, Repr

/-- The interval of reals that round to a magnitude, as natural numbers over a common denominator.
-/
structure Interval where
  low : Nat
  value : Nat
  high : Nat
  denominator : Nat
  closed : Bool
  deriving Repr

/-- The interval around a positive magnitude. Below a power of two the neighbouring numbers lie
twice as dense, so that there the lower end is nearer. -/
def Magnitude.interval (x : Magnitude) : Interval :=
  let quarters : Nat := Nat.pow 2 (x.exponent - 2).toNat
  let below := if x.significand = leadingBit ∧ -1074 < x.exponent then 1 else 2
  { low := (4 * x.significand - below) * quarters
    value := 4 * x.significand * quarters
    high := (4 * x.significand + 2) * quarters
    denominator := Nat.pow 2 (2 - x.exponent).toNat
    closed := x.significand % 2 = 0 }

/-- The interval in multiples of `10 ^ exponent`: numerators, with the size of one step of the grid.
-/
def Interval.onGrid (i : Interval) (exponent : Int) : Interval :=
  let up := Nat.pow 10 (-exponent).toNat
  { i with
    low := i.low * up
    value := i.value * up
    high := i.high * up
    denominator := i.denominator * Nat.pow 10 exponent.toNat }

/-- The nearest multiple of `10 ^ exponent` inside the interval, if there is one. -/
def Interval.nearest? (i : Interval) (tie : Tie) (exponent : Int) : Option Nat :=
  let g := i.onGrid exponent
  let d := g.value / g.denominator
  let step := g.denominator
  let lowerFits := if g.closed then g.low ≤ d * step else g.low < d * step
  let upperFits := if g.closed then (d + 1) * step ≤ g.high else (d + 1) * step < g.high
  let toLower := g.value - d * step
  let toUpper := (d + 1) * step - g.value
  if lowerFits ∧ upperFits then
    if toLower < toUpper then some d
    else if toUpper < toLower then some (d + 1)
    else match tie with
      | .up => some (d + 1)
      | .toEven => some (if d % 2 = 0 then d else d + 1)
  else if lowerFits then some d
  else if upperFits then some (d + 1)
  else none

/-- The number of decimal digits before the point; not positive if the value is below one tenth. -/
def Interval.pointPosition (i : Interval) : Int :=
  (Nat.toDigits 10 (i.value * Nat.pow 10 340 / i.denominator)).length - 340

/-- Tries grids of `count` digits, `count + 1` digits and so on, `fuel` of them. -/
def Interval.search (i : Interval) (tie : Tie) (point : Int) : Nat → Nat → Scaled
  | 0, count => ⟨i.value * Nat.pow 10 (count - point).toNat / i.denominator, point - count⟩
  | fuel + 1, count =>
    match i.nearest? tie (point - count) with
    | some digits => ⟨digits, point - count⟩
    | none => i.search tie point fuel (count + 1)

/-- Moves trailing zeros of the digits into the exponent, at most `fuel` of them. -/
def Scaled.stripZeros : Nat → Scaled → Scaled
  | 0, s => s
  | fuel + 1, s =>
    if s.digits % 10 = 0 ∧ s.digits ≠ 0 then
      Scaled.stripZeros fuel ⟨s.digits / 10, s.exponent + 1⟩
    else s

/-- The shortest decimal that reads back as the positive magnitude, without trailing zeros. -/
def Magnitude.shortest (x : Magnitude) (tie : Tie) : Scaled :=
  let i := x.interval
  (i.search tie i.pointPosition 17 1).stripZeros 18

end Stubsmith.Decimal
