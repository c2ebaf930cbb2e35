import RowMerge.Number.Numeral
/-!
# Layouts of binary64 numbers

A number is shown in one of two layouts. In messages it has no exponent and whole numbers have no
point. In documents a point or an exponent always marks it as a binary64 number, and numbers that
are no decimals have no numeral at all.
-/
namespace RowMerge.Binary64

/-- The number as it is displayed: the shortest digits, a tie going upward, never an exponent. -/
def display (x : Binary64) : String :=
  if x.isNaN then "NaN"
  else if x.isInfinite then if x.isNegative then "-inf" else "inf"
  else String.ofList (Numeral.positional x.isNegative (x.shortest .up)).text

/-- A decimal keeps its point within the first sixteen digits, with at most four zeros after it;
else it gets an exponent. At least one digit follows a point. -/
def numeralOfDecimal (negative : Bool) (d : Decimal) : Numeral :=
  let point := d.exponent + (Nat.toDigits 10 d.digits).length
  if -5 < point ∧ point ≤ 16 then
    let written := Numeral.positional negative d
    if written.fraction.isEmpty then { written with fraction := Numeral.lastDigits 1 0 } else written
  else Numeral.scientific negative d

/-- The number as a numeral that is read back as it: the shortest digits, a tie going to the even
digit. The infinities and NaNs have none. -/
def numeral? (x : Binary64) : Option Numeral :=
  if x.isFinite then some (numeralOfDecimal x.isNegative (x.shortest .even)) else none

/-- The number 1e21 in both layouts. -/
example : display ⟨0x444B1AE4D6E2EF50⟩ = "1000000000000000000000" ∧
    (numeral? ⟨0x444B1AE4D6E2EF50⟩).map Numeral.text = some ['1', 'e', '+', '2', '1'] := by
  decide +kernel

/-- The number -0 in both layouts. -/
example : display ⟨0x8000000000000000⟩ = "-0" ∧
    (numeral? ⟨0x8000000000000000⟩).map Numeral.text = some ['-', '0', '.', '0'] := by
  decide +kernel

end RowMerge.Binary64
