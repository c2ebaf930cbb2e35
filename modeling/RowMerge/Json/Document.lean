import RowMerge.Json.Basic
/-!
# Types with documents

How data is laid out as a document, and taken from one. A record is written as an object with its
fields in order. It is read from such an object with the fields in any order and unknown ones
passed over, or from an array of the fields in order. Arrays and objects that are taken
from a document are counted: a document nested deeper than a limit is refused, except in the parts
that are passed over.
-/
namespace RowMerge

/-- Data that can be written as a document and read from one. -/
class Document (α : Type) where
  toJson : α → Json
  /-- The data of a document, in which at most so many brackets may be open at a time. -/
  ofJson? : Nat → Json → Option α

namespace Document

/-- The number of brackets that may be open at a time. -/
def nestingLimit : Nat := 127

variable {α : Type} [Document α]

def write (x : α) : String := (toJson x).print

def read? (text : String) : Option α := (Json.read? text).bind (ofJson? nestingLimit)

end Document

namespace Json

/-! ## Writing -/

def ofText (text : String) : Json := string (some text)

def ofInt (i : Int) : Json := number (.ofInt i)

def ofFields (fields : List (String × Json)) : Json :=
  object (fields.map fun field => (some field.1, field.2))

/-! ## Reading -/

def toText? : Json → Option String
  | string text => text
  | _ => none

def toBool? : Json → Option Bool
  | boolean b => some b
  | _ => none

def toInt64? : Json → Option Int64
  | number n => n.toInt?.bind fun i =>
    if Int64.minValue.toInt ≤ i ∧ i ≤ Int64.maxValue.toInt then some (Int64.ofInt i) else none
  | _ => none

def toUInt64? : Json → Option UInt64
  | number n => n.toInt?.bind fun i =>
    if 0 ≤ i ∧ i < UInt64.size then some (UInt64.ofNat i.toNat) else none
  | _ => none

/-- Any number, as the binary64 number that its numeral is read as. -/
def toBinary64? : Json → Option Binary64
  | number n => n.toBinary64?
  | _ => none

def toList? {α : Type} (item? : Nat → Json → Option α) : Nat → Json → Option (List α)
  | depth + 1, array items => items.mapM (item? depth)
  | _, _ => none

/-- The value of a field that is given at most once. -/
def field? (fields : List (Option String × Json)) (name : String) : Option (Option Json) :=
  match fields.filter fun field => field.1 = some name with
  | [] => some none
  | [(_, value)] => some (some value)
  | _ => none

/-- The fields of a record by their names, each of which may be missing. All keys have to be texts,
and no field may be given twice; an array may not be longer than the list of names. -/
def toFields? (names : List String) : Nat → Json → Option (List (Option Json))
  | _ + 1, object fields =>
    if fields.all fun field => field.1.isSome then names.mapM (field? fields) else none
  | _ + 1, array items =>
    if items.length ≤ names.length then some ((List.range names.length).map fun i => items[i]?)
    else none
  | _, _ => none

end Json

end RowMerge
