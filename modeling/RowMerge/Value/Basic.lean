import RowMerge.Number.Binary64
import RowMerge.Calendar.Timestamp
/-!
# Cell values

A cell of a row holds one typed value, or NULL, which fits every column. A merge never looks into
values; only orders do. This module has the type, its readings as plain data, and its equality,
which keeps integers and binary64 numbers apart and follows the numeric equality of the latter.
-/
namespace RowMerge

inductive Value where
  | string (text : String)
  | number (x : Binary64)
  | integer (i : Int64)
  | boolean (b : Bool)
  | dateTime (t : Timestamp)
  | array (items : List Value)
  | null

/-- The declared type of a column; `any` accepts every value. -/
inductive ValueType where
  | string
  | number
  | integer
  | boolean
  | dateTime
  | array
  | any
  deriving DecidableEq

namespace ValueType

def all : List ValueType := [string, number, integer, boolean, dateTime, array, any]

def name : ValueType → String
  | string => "String"
  | number => "Number"
  | integer => "Integer"
  | boolean => "Boolean"
  | dateTime => "DateTime"
  | array => "Array"
  | any => "Any"

/-- The type of a name; names are told apart by case. -/
def ofName? (name : String) : Option ValueType := all.find? fun type => type.name == name

end ValueType

namespace Value

instance : Inhabited Value := ⟨null⟩

/-- The type that a value belongs to; NULL has none. -/
def type? : Value → Option ValueType
  | string _ => some .string
  | number _ => some .number
  | integer _ => some .integer
  | boolean _ => some .boolean
  | dateTime _ => some .dateTime
  | array _ => some .array
  | null => none

def isNull : Value → Bool
  | null => true
  | _ => false

/-- The value as a binary64 number; an integer is rounded to the nearest one. -/
def toNumber? : Value → Option Binary64
  | number x => some x
  | integer i => some (.ofInt i.toInt)
  | _ => none

/-- The value as an integer: an integer, or a finite number without a fractional part, moved to
the nearer end of the 64-bit range if it lies outside. -/
def toInteger? : Value → Option Int64
  | integer i => some i
  | number x => x.toInt?.map Int64.ofIntClamp
  | _ => none

def toText? : Value → Option String
  | string text => some text
  | _ => none

def toTimestamp? : Value → Option Timestamp
  | dateTime t => some t
  | _ => none

mutual

/-- Equality of values: of one type and with equal contents. -/
def equals : Value → Value → Bool
  | string s, string t => s == t
  | number x, number y => x.numericEq y
  | integer i, integer j => i == j
  | boolean a, boolean b => a == b
  | dateTime s, dateTime t => s == t
  | array xs, array ys => allEqual xs ys
  | null, null => true
  | _, _ => false

def allEqual : List Value → List Value → Bool
  | [], [] => true
  | x :: xs, y :: ys => equals x y && allEqual xs ys
  | _, _ => false

end

instance : BEq Value := ⟨equals⟩

end Value

/-- Plain data that has a value; a missing one is NULL and a list is an array. -/
class ToValue (α : Type) where
  toValue : α → Value

export ToValue (toValue)

instance : ToValue String := ⟨.string⟩

instance : ToValue Binary64 := ⟨.number⟩

instance : ToValue Int64 := ⟨.integer⟩

instance : ToValue Bool := ⟨.boolean⟩

instance : ToValue Timestamp := ⟨.dateTime⟩

instance {α : Type} [ToValue α] : ToValue (Option α) := ⟨fun a? => a?.elim .null toValue⟩

instance {α : Type} [ToValue α] : ToValue (List α) := ⟨fun items => .array (items.map toValue)⟩

end RowMerge
