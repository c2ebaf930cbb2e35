/-!
# Binary64 numbers

A binary64 number is kept as its 64 bits, so that zeros keep their sign and NaNs their payload.
Every number has a place on one scale, counted in multiples of the least positive number: finite
numbers stand at their exact value, and the formula for the significand carries on past them, so
that the infinities and then the NaNs follow in the order of their bits. `ofRatio` is the only
rounding in the library; sums, products and quotients of the text formats all go through it.
-/
namespace RowMerge

/-- A number of the binary64 format: one bit of sign, eleven of exponent, fifty-two of fraction. -/
structure Binary64 where
  bits : UInt64
  deriving DecidableEq

namespace Binary64

/-- The weight of the sign bit, `2 ^ 63`. -/
def signWeight : Nat := 0x8000000000000000

/-- The number of fractions, `2 ^ 52`: the weight of the exponent's lowest bit, and of the leading
bit of a significand. -/
def fractionCount : Nat := 0x10000000000000

/-- The number 1 in multiples of `2 ^ -1074`. -/
def unitsPerOne : Nat := 1 <<< 1074

/-- The bits below the sign, read as one number. -/
def magnitude (x : Binary64) : Nat := x.bits.toNat % signWeight

/-- Whether the sign bit is set; it is of -0 and may be of a NaN. -/
def isNegative (x : Binary64) : Bool := decide (signWeight ≤ x.bits.toNat)

def exponentField (x : Binary64) : Nat := x.magnitude / fractionCount

def fraction (x : Binary64) : Nat := x.magnitude % fractionCount

/-- The magnitude of an infinity: every exponent bit set and no fraction. -/
def infinityMagnitude : Nat := 2047 * fractionCount

def isFinite (x : Binary64) : Bool := decide (x.magnitude < infinityMagnitude)

def isInfinite (x : Binary64) : Bool := decide (x.magnitude = infinityMagnitude)

def isNaN (x : Binary64) : Bool := decide (infinityMagnitude < x.magnitude)

def isZero (x : Binary64) : Bool := decide (x.magnitude = 0)

/-- The integer that a power of two scales; normal numbers have a leading bit that is not stored. -/
def significand (x : Binary64) : Nat :=
  if x.exponentField = 0 then x.fraction else fractionCount + x.fraction

/-- How often the significand is doubled, counted from `2 ^ -1074`; the numbers below the normal
ones share their spacing with the least normal ones. -/
def scale (x : Binary64) : Nat := x.exponentField - 1

/-- The absolute value in multiples of `2 ^ -1074`. -/
def absUnits (x : Binary64) : Nat := x.significand <<< x.scale

/-- The place of a number on the common scale. Finite numbers stand at their exact value in
multiples of `2 ^ -1074`, both zeros at 0. -/
def units (x : Binary64) : Int := if x.isNegative then -(x.absUnits : Int) else (x.absUnits : Int)

/-- The place of an integer on the scale of `units`. -/
def unitsOfInt (i : Int) : Int := i * unitsPerOne

/-- Numeric equality: no NaN equals anything, and the two zeros are equal. -/
def numericEq (x y : Binary64) : Bool := !x.isNaN && !y.isNaN && x.units == y.units

/-- The place of a number in the order of all the bit patterns, which leads from the NaNs with a
sign to those without. -0 stands just below 0. -/
def bitOrderKey (x : Binary64) : Int :=
  if x.isNegative then -(x.magnitude : Int) - 1 else (x.magnitude : Int)

/-- The order of numbers: the bits decide where the numbers are not equal. -/
def order (x y : Binary64) : Ordering :=
  if x.numericEq y then .eq else compare x.bitOrderKey y.bitOrderKey

/-- The first integer past those of 64 bits, `2 ^ 63`. -/
def integersEnd : Int := 0x8000000000000000

/-- The order of an integer and a number. The integer is not rounded: numbers past the range of 64
bits are told apart from it first, and any other has a floor inside the range. -/
def orderOfInteger (i : Int64) (y : Binary64) : Ordering :=
  if y.isNaN then
    if y.isNegative then .gt else .lt
  else if unitsOfInt integersEnd ≤ y.units then .lt
  else if y.units < unitsOfInt (-integersEnd) then .gt
  else
    let floor := y.units / unitsPerOne
    (compare i.toInt (Int64.ofIntClamp floor).toInt).then
      (if unitsOfInt floor < y.units then .lt else .eq)

/-- The number with a given sign and given bits below the sign. -/
def ofMagnitude (negative : Bool) (magnitude : Nat) : Binary64 :=
  ⟨UInt64.ofNat (magnitude + if negative then signWeight else 0)⟩

/-- The integer nearest to `num / den`; a half goes to the even neighbour. -/
def roundHalfEven (num den : Nat) : Nat :=
  let quotient := num / den
  let rest := num % den
  if 2 * rest < den then quotient
  else if den < 2 * rest then quotient + 1
  else quotient + quotient % 2

/-- The number nearest to `num / den`, a tie going to the even significand. A value past the
greatest finite number by half a step or more becomes an infinity. The bits below the sign are
those of the spacing, counted in steps of `fractionCount`, plus the rounded significand: a significand
that rounds up to twice `fractionCount` carries into the exponent by itself. -/
def ofRatio (negative : Bool) (num den : Nat) : Binary64 :=
  let units := num * unitsPerOne
  let scale := (units / den).log2 - 52
  ofMagnitude negative
    (min (scale * fractionCount + roundHalfEven units (den <<< scale)) infinityMagnitude)

def ofNat (n : Nat) : Binary64 := ofRatio false n 1

def ofInt (i : Int) : Binary64 := ofRatio (decide (i < 0)) i.natAbs 1

/-- The integer that a finite number is, if it has no fractional part. -/
def toInt? (x : Binary64) : Option Int :=
  if x.isFinite && x.units % unitsPerOne == 0 then some (x.units / unitsPerOne) else none

def withSign (x : Binary64) (negative : Bool) : Binary64 := ofMagnitude negative x.magnitude

/-- The rounded product of the absolute values of two finite numbers. -/
def absMul (x y : Binary64) : Binary64 := ofRatio false (x.absUnits * y.absUnits) (unitsPerOne * unitsPerOne)

/-- The rounded quotient of the absolute values of two finite numbers, the second not zero. -/
def absDiv (x y : Binary64) : Binary64 := ofRatio false x.absUnits y.absUnits

theorem magnitude_lt (x : Binary64) : x.magnitude < signWeight := Nat.mod_lt _ (by decide)

theorem magnitude_ofMagnitude (negative : Bool) {magnitude : Nat} (small : magnitude < signWeight) :
    (ofMagnitude negative magnitude).magnitude = magnitude := by
  simp only [Binary64.magnitude, ofMagnitude, signWeight, UInt64.toNat_ofNat'] at *
  split <;> omega

theorem isNegative_ofMagnitude (negative : Bool) {magnitude : Nat} (small : magnitude < signWeight) :
    (ofMagnitude negative magnitude).isNegative = negative := by
  simp only [isNegative, ofMagnitude, signWeight, UInt64.toNat_ofNat'] at *
  cases negative <;> simp <;> omega

end Binary64

end RowMerge
