import RowMerge.Value.Basic
import RowMerge.Number.Layout
import RowMerge.Calendar.Rfc3339
import RowMerge.Json.Document
/-!
# Documents of values

A value is an object with one field, whose name is the type and whose content is the value; NULL,
which has no type, is the bare text `Null`. A type is its name. Where a bare name is written, an
object with that name and null is read as well. The numbers that are no decimals are written
as null, which is not read back.
-/
namespace RowMerge

/-- A name that stands alone, or as the only field of an object with nothing in it. -/
def Json.toName? : Nat → Json → Option String
  | _, .string text => text
  | _ + 1, .object [(key, .null)] => key
  | _, _ => none

instance : Document ValueType where
  toJson type := .ofText type.name
  ofJson? depth document := (document.toName? depth).bind ValueType.ofName?

namespace Value

def nullName : String := "Null"

/-- A type and what a value of that type holds. -/
def tagged (type : ValueType) (content : Json) : Json := .ofFields [(type.name, content)]

mutual

def toJson : Value → Json
  | string text => tagged .string (.ofText text)
  | number x => tagged .number (x.numeral?.elim .null .number)
  | integer i => tagged .integer (.ofInt i.toInt)
  | boolean b => tagged .boolean (.boolean b)
  | dateTime t => tagged .dateTime (.ofText (Rfc3339.write t))
  | array items => tagged .array (.array (allToJson items))
  | null => .ofText nullName

def allToJson : List Value → List Json
  | [] => []
  | item :: rest => toJson item :: allToJson rest

end

/-- A value other than NULL and arrays, from its type and its content. -/
def ofContent? : ValueType → Json → Option Value
  | .string, content => content.toText?.map string
  | .number, content => content.toBinary64?.map number
  | .integer, content => content.toInt64?.map integer
  | .boolean, content => content.toBool?.map boolean
  | .dateTime, content => (content.toText?.bind Rfc3339.read?).map dateTime
  | .array, _ => none
  | .any, _ => none

/-- The value of a document. The object and the array of an array value count as two brackets. -/
def ofJson? : Nat → Json → Option Value
  | depth + 2, .object [(some name, .array items)] =>
    if name = ValueType.array.name then (items.mapM (ofJson? depth)).map array else none
  | depth, document =>
    if document.toName? depth = some nullName then some null
    else
      match depth, document with
      | _ + 1, .object [(some name, content)] =>
        (ValueType.ofName? name).bind fun type => ofContent? type content
      | _, _ => none

instance : Document Value := ⟨toJson, ofJson?⟩

end Value

end RowMerge
