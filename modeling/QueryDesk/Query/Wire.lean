import QueryDesk.Query.Basic
import QueryDesk.Json.Record

/-! # Query definitions in JSON

How queries and their parts are written and read. Lists with nothing in them and values that are
absent are left out; tables and columns of a query are always there.
-/

set_option autoImplicit false

namespace QueryDesk

open Json (asText? asUInt32? asList? asWord?)

/-- A member that is left out where there is no value. -/
def optionalMember {α : Type} (name : String) (write : α → Json) (value : Option α) :
    List (String × Json) :=
  value.toList.map fun a => (name, write a)

/-- A member that is left out where the list is empty. -/
def listMember {α : Type} (name : String) (write : α → Json) (items : List α) :
    List (String × Json) :=
  if items.isEmpty then [] else [(name, .ofList write items)]

namespace QueryTable

/-- The table in JSON. -/
def toJson (t : QueryTable) : Json :=
  .object ([("id", .text t.id), ("name", .text t.name)] ++ optionalMember "alias" .text t.label)

/-- A table read from JSON. -/
def ofJson? (v : Json) : Option QueryTable := do
  let f ← v.fields? ["id", "name", "alias"]
  let id ← f.required "id" asText?
  let name ← f.required "name" asText?
  let label ← f.optional "alias" asText?
  some ⟨id, name, label⟩

end QueryTable

namespace Selection

/-- The output column in JSON. -/
def toJson (s : Selection) : Json :=
  .object ([("tableId", .text s.tableId), ("column", .text s.column),
      ("aggregation", .text s.aggregation.word)] ++
    optionalMember "alias" .text s.label ++
    optionalMember "dateTrunc" (fun i => .text i.word) s.interval)

/-- An output column read from JSON. -/
def ofJson? (v : Json) : Option Selection := do
  let f ← v.fields? ["tableId", "column", "aggregation", "alias", "dateTrunc"]
  let tableId ← f.required "tableId" asText?
  let column ← f.required "column" asText?
  let aggregation ← f.withDefault "aggregation" (asWord? Aggregation.ofWord?) .raw
  let label ← f.optional "alias" asText?
  let interval ← f.optional "dateTrunc" (asWord? Interval.ofWord?)
  some ⟨tableId, column, aggregation, label, interval⟩

end Selection

namespace Operand

/-- The operand in JSON. -/
def toJson : Operand → Json
  | .list values => .ofList Cell.toJson values
  | .scalar value => value.toJson

/-- An operand read from JSON: a list of cells, or else one cell. -/
def ofJson? (v : Json) : Option Operand :=
  ((asList? Cell.ofJson? v).map .list).or ((Cell.ofJson? v).map .scalar)

end Operand

namespace Filter

/-- The filter in JSON. -/
def toJson (f : Filter) : Json :=
  .object ([("tableId", .text f.tableId), ("column", .text f.column),
      ("operator", .text f.operator.word)] ++
    optionalMember "value" Operand.toJson f.value)

/-- A filter read from JSON; a null operand is an absent one. -/
def ofJson? (v : Json) : Option Filter := do
  let f ← v.fields? ["tableId", "column", "operator", "value"]
  let tableId ← f.required "tableId" asText?
  let column ← f.required "column" asText?
  let operator ← f.required "operator" (asWord? Operator.ofWord?)
  let value ← f.optional "value" Operand.ofJson?
  some ⟨tableId, column, operator, value⟩

end Filter

namespace Join

/-- The join in JSON. -/
def toJson (j : Join) : Json :=
  .object [("fromTableId", .text j.fromTableId), ("fromColumn", .text j.fromColumn),
    ("toTableId", .text j.toTableId), ("toColumn", .text j.toColumn),
    ("joinType", .text j.kind.word)]

/-- A join read from JSON. -/
def ofJson? (v : Json) : Option Join := do
  let f ← v.fields? ["fromTableId", "fromColumn", "toTableId", "toColumn", "joinType"]
  let fromTableId ← f.required "fromTableId" asText?
  let fromColumn ← f.required "fromColumn" asText?
  let toTableId ← f.required "toTableId" asText?
  let toColumn ← f.required "toColumn" asText?
  let kind ← f.withDefault "joinType" (asWord? JoinKind.ofWord?) .left
  some ⟨fromTableId, fromColumn, toTableId, toColumn, kind⟩

end Join

namespace SortKey

/-- The entry of the order in JSON. -/
def toJson (s : SortKey) : Json :=
  .object [("tableId", .text s.tableId), ("column", .text s.column),
    ("direction", .text s.direction.word)]

/-- An entry of the order read from JSON. -/
def ofJson? (v : Json) : Option SortKey := do
  let f ← v.fields? ["tableId", "column", "direction"]
  let tableId ← f.required "tableId" asText?
  let column ← f.required "column" asText?
  let direction ← f.withDefault "direction" (asWord? Direction.ofWord?) .asc
  some ⟨tableId, column, direction⟩

end SortKey

namespace Grouping

/-- The entry of the grouping in JSON. -/
def toJson (g : Grouping) : Json :=
  .object [("tableId", .text g.tableId), ("column", .text g.column)]

/-- An entry of the grouping read from JSON. -/
def ofJson? (v : Json) : Option Grouping := do
  let f ← v.fields? ["tableId", "column"]
  let tableId ← f.required "tableId" asText?
  let column ← f.required "column" asText?
  some ⟨tableId, column⟩

end Grouping

namespace Query

/-- The query in JSON. -/
def toJson (q : Query) : Json :=
  .object ([("tables", .ofList QueryTable.toJson q.tables)] ++
    listMember "joins" Join.toJson q.joins ++
    [("columns", .ofList Selection.toJson q.columns)] ++
    listMember "filters" Filter.toJson q.filters ++
    listMember "groupBy" Grouping.toJson q.groupings ++
    listMember "orderBy" SortKey.toJson q.sorts ++
    optionalMember "limit" (fun n => .natural n.toUInt64) q.limit ++
    optionalMember "offset" (fun n => .natural n.toUInt64) q.offset)

/-- A query read from JSON. -/
def ofJson? (v : Json) : Option Query := do
  let f ← v.fields?
    ["tables", "joins", "columns", "filters", "groupBy", "orderBy", "limit", "offset"]
  let tables ← f.required "tables" (asList? QueryTable.ofJson?)
  let joins ← f.withDefault "joins" (asList? Join.ofJson?) []
  let columns ← f.required "columns" (asList? Selection.ofJson?)
  let filters ← f.withDefault "filters" (asList? Filter.ofJson?) []
  let groupings ← f.withDefault "groupBy" (asList? Grouping.ofJson?) []
  let sorts ← f.withDefault "orderBy" (asList? SortKey.ofJson?) []
  let limit ← f.optional "limit" asUInt32?
  let offset ← f.optional "offset" asUInt32?
  some ⟨tables, joins, columns, filters, groupings, sorts, limit, offset⟩

end Query

end QueryDesk
