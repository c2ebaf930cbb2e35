import RowMerge.Value.Display
/-!
# Schemas

The columns of a row source, by name and declared type. Names need not be distinct.
-/
namespace RowMerge

structure Column where
  name : String
  type : ValueType
  deriving DecidableEq

def Column.display (column : Column) : String := column.name ++ ": " ++ column.type.name

structure Schema where
  columns : List Column
  deriving DecidableEq

namespace Schema

def empty : Schema := ⟨[]⟩

instance : Inhabited Schema := ⟨empty⟩

def columnCount (schema : Schema) : Nat := schema.columns.length

def columnName? (schema : Schema) (index : Nat) : Option String :=
  schema.columns[index]?.map Column.name

def columnType? (schema : Schema) (index : Nat) : Option ValueType :=
  schema.columns[index]?.map Column.type

def indexOf? (schema : Schema) (name : String) : Option Nat :=
  schema.columns.findIdx? fun column => column.name == name

def display (schema : Schema) : String :=
  "[" ++ commaSeparated (schema.columns.map Column.display) ++ "]"

end Schema

end RowMerge
