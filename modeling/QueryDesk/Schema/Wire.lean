import QueryDesk.Schema.Basic
import QueryDesk.Json.Record

/-! # Schemas in JSON

How schemas are written and read. The estimate of a row count is left out where there is none; a
missing default value is written as null.
-/

set_option autoImplicit false

namespace QueryDesk

open Json (asText? asBool? asUInt64? asList?)

namespace Column

/-- The column in JSON. -/
def toJson (c : Column) : Json :=
  .object [("name", .text c.name), ("dataType", .text c.dataType), ("nullable", .bool c.nullable),
    ("isPrimaryKey", .bool c.isPrimaryKey), ("defaultValue", .ofOption .text c.defaultValue)]

/-- A column read from JSON. -/
def ofJson? (v : Json) : Option Column := do
  let f ← v.fields? ["name", "dataType", "nullable", "isPrimaryKey", "defaultValue"]
  let name ← f.required "name" asText?
  let dataType ← f.required "dataType" asText?
  let nullable ← f.withDefault "nullable" asBool? false
  let isPrimaryKey ← f.withDefault "isPrimaryKey" asBool? false
  let defaultValue ← f.optional "defaultValue" asText?
  some ⟨name, dataType, nullable, isPrimaryKey, defaultValue⟩

end Column

namespace Table

/-- The table in JSON. -/
def toJson (t : Table) : Json :=
  .object <|
    [("name", .text t.name), ("schemaName", .text t.schemaName),
      ("columns", .ofList Column.toJson t.columns)] ++
    t.rowCountEstimate.toList.map fun n => ("rowCountEstimate", .natural n)

/-- A table read from JSON. -/
def ofJson? (v : Json) : Option Table := do
  let f ← v.fields? ["name", "schemaName", "columns", "rowCountEstimate"]
  let name ← f.required "name" asText?
  let schemaName ← f.withDefault "schemaName" asText? ""
  let columns ← f.withDefault "columns" (asList? Column.ofJson?) []
  let rowCountEstimate ← f.optional "rowCountEstimate" asUInt64?
  some ⟨name, schemaName, columns, rowCountEstimate⟩

end Table

namespace Relationship

/-- The relationship in JSON. -/
def toJson (r : Relationship) : Json :=
  .object [("fromTable", .text r.fromTable), ("fromColumn", .text r.fromColumn),
    ("toTable", .text r.toTable), ("toColumn", .text r.toColumn)]

/-- A relationship read from JSON. -/
def ofJson? (v : Json) : Option Relationship := do
  let f ← v.fields? ["fromTable", "fromColumn", "toTable", "toColumn"]
  let fromTable ← f.required "fromTable" asText?
  let fromColumn ← f.required "fromColumn" asText?
  let toTable ← f.required "toTable" asText?
  let toColumn ← f.required "toColumn" asText?
  some ⟨fromTable, fromColumn, toTable, toColumn⟩

end Relationship

namespace Schema

/-- The schema in JSON. -/
def toJson (s : Schema) : Json :=
  .object [("tables", .ofList Table.toJson s.tables),
    ("relationships", .ofList Relationship.toJson s.relationships)]

/-- A schema read from JSON. -/
def ofJson? (v : Json) : Option Schema := do
  let f ← v.fields? ["tables", "relationships"]
  let tables ← f.withDefault "tables" (asList? Table.ofJson?) []
  let relationships ← f.withDefault "relationships" (asList? Relationship.ofJson?) []
  some ⟨tables, relationships⟩

end Schema

end QueryDesk
