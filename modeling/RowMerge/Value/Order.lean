import RowMerge.Value.Basic
/-!
# The order of values

Values of all types stand in one order. Types follow a fixed rank: NULL, booleans, numbers,
texts, timestamps, arrays. Integers and binary64 numbers are compared without rounding either; a NaN
stands past the infinity of its sign. Texts are ordered by code points and arrays item by item, a
shorter one before its continuations.
-/
namespace RowMerge.Value

/-- The place of a value's type in the order. Integers and binary64 numbers share one. -/
def rank : Value → Nat
  | null => 0
  | boolean _ => 1
  | integer _ => 2
  | number _ => 2
  | string _ => 3
  | dateTime _ => 4
  | array _ => 5

/-- The place of a number on the scale of `Binary64.units`. -/
def units? : Value → Option Int
  | integer i => some (Binary64.unitsOfInt i.toInt)
  | number x => some x.units
  | _ => none

mutual

def order : Value → Value → Ordering
  | integer i, integer j => compare i.toInt j.toInt
  | number x, number y => x.order y
  | integer i, number y => Binary64.orderOfInteger i y
  | number x, integer j => (Binary64.orderOfInteger j x).swap
  | string s, string t => compare s t
  | boolean a, boolean b => compare a b
  | dateTime s, dateTime t => s.order t
  | array xs, array ys => orderAll xs ys
  | a, b => compare a.rank b.rank

/-- The order of arrays: the first item that differs decides, else the length. -/
def orderAll : List Value → List Value → Ordering
  | [], [] => .eq
  | [], _ :: _ => .lt
  | _ :: _, [] => .gt
  | x :: xs, y :: ys => (order x y).then (orderAll xs ys)

end

end RowMerge.Value
