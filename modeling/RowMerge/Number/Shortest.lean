import RowMerge.Number.Binary64
/-!
# Shortest decimals

The shortest decimal of a binary64 number is the one with the fewest digits among those that
round back to it, and among several of that length the nearest. Fewest digits is the same as
the coarsest grid of powers of ten that has a point in the rounding interval; if a grid has such a
point, then one of the two neighbours of the number on that grid is one.
-/
namespace RowMerge

def powerOfTen (n : Nat) : Nat := Nat.pow 10 n

/-- The decimal `digits * 10 ^ exponent`. -/
structure Decimal where
  digits : Nat
  exponent : Int
  deriving DecidableEq

/-- Which of two equally near decimals is taken: the greater, or the one with an even last digit. -/
inductive TieRule where
  | up
  | even
  deriving DecidableEq

/-- The reals that round to a number, as bounds in multiples of `2 ^ -1076`. The bounds belong to
the interval exactly if the significand is even. -/
structure RoundingInterval where
  low : Nat
  centre : Nat
  high : Nat
  closed : Bool
  deriving DecidableEq

namespace Binary64

/-- Half a step to each side; below a power of two the step is half as long, the least normal
number excepted. -/
def roundingInterval (x : Binary64) : RoundingInterval where
  low := (4 * x.significand - if x.fraction = 0 ∧ 1 < x.exponentField then 1 else 2) <<< x.scale
  centre := (4 * x.significand) <<< x.scale
  high := (4 * x.significand + 2) <<< x.scale
  closed := x.significand % 2 == 0

end Binary64

namespace RoundingInterval

/-- Whether the interval holds the fraction `num / den` of its unit. -/
def holds (interval : RoundingInterval) (num den : Nat) : Bool :=
  if interval.closed then interval.low * den ≤ num && num ≤ interval.high * den
  else interval.low * den < num && num < interval.high * den

/-- The multiple of `10 ^ k` in the interval that is nearest to the centre, divided by `10 ^ k`. -/
def onGrid? (interval : RoundingInterval) (tie : TieRule) (k : Int) : Option Nat :=
  let step := 4 * Binary64.unitsPerOne * powerOfTen k.toNat
  let shrink := powerOfTen (-k).toNat
  let below := interval.centre * shrink / step
  let rest := interval.centre * shrink % step
  match interval.holds (below * step) shrink, interval.holds ((below + 1) * step) shrink with
  | false, false => none
  | true, false => some below
  | false, true => some (below + 1)
  | true, true =>
    if 2 * rest < step then some below
    else if step < 2 * rest then some (below + 1)
    else match tie with
      | .up => some (below + 1)
      | .even => some (below + below % 2)

/-- An exponent of ten such that no coarser grid has a point in the interval: ten times the power
of ten exceeds the upper bound. -/
def topExponent (interval : RoundingInterval) : Int :=
  ((interval.high.log2 : Int) - 1075) * 30103 / 100000 + 1

/-- The point of the coarsest of the next `fuel` grids, from `10 ^ k` downward. -/
def search (interval : RoundingInterval) (tie : TieRule) : Nat → Int → Option Decimal
  | 0, _ => none
  | fuel + 1, k =>
    match interval.onGrid? tie k with
    | some digits => some ⟨digits, k⟩
    | none => search interval tie fuel (k - 1)

end RoundingInterval

namespace Binary64

/-- The shortest decimal that reads back as the absolute value of a finite number. Seventeen
digits always suffice, so twenty-four grids from the top are enough. -/
def shortest (tie : TieRule) (x : Binary64) : Decimal :=
  if x.isZero then ⟨0, 0⟩
  else
    let interval := x.roundingInterval
    (interval.search tie 24 interval.topExponent).getD ⟨0, 0⟩

end Binary64

end RowMerge
