import RowMerge.Value.Display
/-!
# Rows

A row is a list of values, one per column. Columns are counted from 0.
-/
namespace RowMerge

structure Row where
  values : List Value

namespace Row

instance : Inhabited Row := ⟨⟨[]⟩⟩

instance : BEq Row := ⟨fun a b => a.values == b.values⟩

def empty : Row := ⟨[]⟩

def arity (row : Row) : Nat := row.values.length

def get? (row : Row) (column : Nat) : Option Value := row.values[column]?

/-- The value in a column; a column that the row lacks counts as NULL. -/
def getOrNull (row : Row) (column : Nat) : Value := (row.get? column).getD .null

def display (row : Row) : String := "(" ++ commaSeparated (row.values.map Value.display) ++ ")"

end Row

end RowMerge
