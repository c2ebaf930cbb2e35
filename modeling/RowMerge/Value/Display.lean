import RowMerge.Value.Basic
import RowMerge.Number.Layout
/-!
# Display of values

Texts stand between quotes and are not escaped, arrays between brackets with their items separated
by a comma and a space.
-/
namespace RowMerge

/-- Texts one after the other, with a comma and a space between two of them. -/
def commaSeparated (texts : List String) : String := ", ".intercalate texts

namespace Value

mutual

def display : Value → String
  | string text => "\"" ++ text ++ "\""
  | number x => x.display
  | integer i => toString i.toInt
  | boolean b => if b then "true" else "false"
  | dateTime t => t.display
  | array items => "[" ++ commaSeparated (displayAll items) ++ "]"
  | null => "NULL"

def displayAll : List Value → List String
  | [] => []
  | item :: rest => display item :: displayAll rest

end

end Value

end RowMerge
