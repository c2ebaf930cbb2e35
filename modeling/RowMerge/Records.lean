import RowMerge.Value.Document
import RowMerge.Row
import RowMerge.Schema
import RowMerge.RowOrder
import RowMerge.Config
/-!
# Documents of records

Rows, columns, schemas, sort keys, row orders and configurations as documents. All fields of a
record are required, those of a configuration excepted: where one is missing, its default holds.
A configuration that is read for use is validated as well.
-/
namespace RowMerge

instance : Document Row where
  toJson row := .ofFields [("values", .array (row.values.map Document.toJson))]
  ofJson? depth document :=
    match document.toFields? ["values"] depth with
    | some [some values] => (values.toList? Document.ofJson? (depth - 1)).map Row.mk
    | _ => none

instance : Document Column where
  toJson column := .ofFields
    [("name", .ofText column.name), ("data_type", Document.toJson column.type)]
  ofJson? depth document :=
    match document.toFields? ["name", "data_type"] depth with
    | some [some name, some type] => do
      return ⟨← name.toText?, ← Document.ofJson? (depth - 1) type⟩
    | _ => none

instance : Document Schema where
  toJson schema := .ofFields [("columns", .array (schema.columns.map Document.toJson))]
  ofJson? depth document :=
    match document.toFields? ["columns"] depth with
    | some [some columns] => (columns.toList? Document.ofJson? (depth - 1)).map Schema.mk
    | _ => none

instance : Document SortKey where
  toJson key := .ofFields
    [("column", .ofInt key.column.toNat), ("ascending", .boolean key.ascending),
      ("nulls_first", .boolean key.nullsFirst)]
  ofJson? depth document :=
    match document.toFields? ["column", "ascending", "nulls_first"] depth with
    | some [some column, some ascending, some nullsFirst] => do
      return ⟨← column.toUInt64?, ← ascending.toBool?, ← nullsFirst.toBool?⟩
    | _ => none

instance : Document RowOrder where
  toJson order := .ofFields [("items", .array (order.keys.map Document.toJson))]
  ofJson? depth document :=
    match document.toFields? ["items"] depth with
    | some [some keys] => (keys.toList? Document.ofJson? (depth - 1)).map RowOrder.mk
    | _ => none

/-- A field that may be missing. -/
def Json.orDefault {α : Type} (read? : Json → Option α) (default : α) : Option Json → Option α
  | some content => read? content
  | none => some default

namespace Config

instance : Document Config where
  toJson config := .ofFields
    [("check_schema", .boolean config.checkSchema), ("max_lanes", .ofInt config.maxLanes.toNat),
      ("fetch_size", .ofInt config.fetchSize.toNat)]
  ofJson? depth document :=
    match document.toFields? ["check_schema", "max_lanes", "fetch_size"] depth with
    | some [checkSchema, maxLanes, fetchSize] => do
      let standard : Config := {}
      return ⟨← Json.orDefault Json.toBool? standard.checkSchema checkSchema,
        ← Json.orDefault Json.toUInt64? standard.maxLanes maxLanes,
        ← Json.orDefault Json.toUInt64? standard.fetchSize fetchSize⟩
    | _ => none

/-- The fault of a text that is no configuration. The words that the JSON parser has for what is wrong,
and the place where it says so, are left out; in their stead the fault tells where the text ends. -/
def unreadable (text : String) : Fault :=
  let lastLine := text.toList.count '\n' + 1
  .configuration s!"no configuration in the text that ends at line {lastLine}"

/-- The configuration of a text, if it is one and has no defect. -/
def ofText (text : String) : Except Fault Config :=
  match (Document.read? text : Option Config) with
  | none => .error (unreadable text)
  | some config => config.validate.map fun _ => config

end Config

end RowMerge
