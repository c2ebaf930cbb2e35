import RowMerge.Row
import RowMerge.Value.Order
/-!
# Orders of rows

A sort key orders rows by one column, with a direction and a place for NULL that does not depend
on the direction. A row order is a list of sort keys, of which the first that tells two rows apart
decides. Without keys all rows are tied.
-/
namespace RowMerge

structure SortKey where
  column : UInt64
  ascending : Bool
  nullsFirst : Bool
  deriving DecidableEq

namespace SortKey

/-- Ascending, NULL first: the order of values as it is. -/
def asc (column : UInt64) : SortKey := ⟨column, true, true⟩

/-- Descending, NULL last: the order of values turned round. -/
def desc (column : UInt64) : SortKey := ⟨column, false, false⟩

def withNullsFirst (key : SortKey) : SortKey := { key with nullsFirst := true }

def withNullsLast (key : SortKey) : SortKey := { key with nullsFirst := false }

def valueOf (key : SortKey) (row : Row) : Value := row.getOrNull key.column.toNat

def orderValues (key : SortKey) (a b : Value) : Ordering :=
  match a.isNull, b.isNull with
  | true, true => .eq
  | true, false => if key.nullsFirst then .lt else .gt
  | false, true => if key.nullsFirst then .gt else .lt
  | false, false => if key.ascending then a.order b else (a.order b).swap

def order (key : SortKey) (a b : Row) : Ordering := key.orderValues (key.valueOf a) (key.valueOf b)

end SortKey

/-- An order of rows by several keys, the first one weighing most. -/
structure RowOrder where
  keys : List SortKey
  deriving DecidableEq

namespace RowOrder

def empty : RowOrder := ⟨[]⟩

def ascending (column : UInt64) : RowOrder := ⟨[.asc column]⟩

def descending (column : UInt64) : RowOrder := ⟨[.desc column]⟩

/-- The order with one more key, which weighs least. -/
def thenBy (order : RowOrder) (key : SortKey) : RowOrder := ⟨order.keys ++ [key]⟩

def orderByKeys : List SortKey → Row → Row → Ordering
  | [], _, _ => .eq
  | key :: rest, a, b => (key.order a b).then (orderByKeys rest a b)

def order (o : RowOrder) (a b : Row) : Ordering := orderByKeys o.keys a b

end RowOrder

end RowMerge
