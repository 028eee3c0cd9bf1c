import QueryDesk.Result.Basic
import QueryDesk.Result.Display
import QueryDesk.Json.Record
import QueryDesk.Query.Wire

/-! # Pivoting

A result reshaped from long to wide: the rows that agree in the dimension columns become one row,
and every value of the pivot column becomes a column, in the order of its text. Rows are gathered
one after the other into groups; a group keeps the dimension cells of its first row, and for every
pivot value the cell of its last row. Combinations without a row are null.
-/

set_option autoImplicit false

namespace QueryDesk

/-- **What to pivot on.** -/
structure PivotConfig where
  pivotColumn : String
  valueColumn : String
  dimensionColumns : List String
  headerPattern : Option String
deriving DecidableEq

namespace PivotConfig

/-- The configuration in JSON. -/
def toJson (c : PivotConfig) : Json :=
  .object ([("pivotColumn", .text c.pivotColumn), ("valueColumn", .text c.valueColumn),
      ("dimensionColumns", .ofList .text c.dimensionColumns)] ++
    optionalMember "pivotColumnFormat" .text c.headerPattern)

/-- A configuration read from JSON. -/
def ofJson? (v : Json) : Option PivotConfig := do
  let f ← v.fields? ["pivotColumn", "valueColumn", "dimensionColumns", "pivotColumnFormat"]
  let pivotColumn ← f.required "pivotColumn" Json.asText?
  let valueColumn ← f.required "valueColumn" Json.asText?
  let dimensionColumns ← f.withDefault "dimensionColumns" (Json.asList? Json.asText?) []
  let headerPattern ← f.optional "pivotColumnFormat" Json.asText?
  some ⟨pivotColumn, valueColumn, dimensionColumns, headerPattern⟩

end PivotConfig

namespace Pivot

/-- Where the columns of a pivot are. -/
structure Places where
  pivot : Nat
  value : Nat
  dimensions : List Nat
deriving DecidableEq

/-- The cell of a row in a column; a row that is too short has null there. -/
def cellAt (row : List Cell) (index : Nat) : Cell := row[index]?.getD .null

/-- The dimension cells of a row. -/
def dimensionCells (p : Places) (row : List Cell) : List Cell := p.dimensions.map (cellAt row)

/-- The keys of the dimension cells of a row. -/
def groupKey (p : Places) (row : List Cell) : List String := (dimensionCells p row).map Cell.key

/-- The key of the pivot cell of a row. -/
def pivotKey (p : Places) (row : List Cell) : String := (cellAt row p.pivot).key

/-- **Rows that agree in the keys of their dimensions**: the dimension cells of the first of them,
and values by pivot key, the latest first. -/
structure Group where
  key : List String
  dimensions : List Cell
  values : List (String × Cell)
deriving DecidableEq

/-- The value of a group for a pivot key, or null. -/
def Group.value (g : Group) (pivotKey : String) : Cell := (g.values.lookup pivotKey).getD .null

/-- One row more: into its group if there is one, else into a new group at the end. -/
def addRow (p : Places) (row : List Cell) : List Group → List Group
  | [] => [⟨groupKey p row, dimensionCells p row, [(pivotKey p row, cellAt row p.value)]⟩]
  | g :: rest =>
    if g.key = groupKey p row then
      { g with values := (pivotKey p row, cellAt row p.value) :: g.values } :: rest
    else g :: addRow p row rest

/-- The groups of rows, in the order of their first rows. -/
def groups (p : Places) (rows : List (List Cell)) : List Group :=
  rows.foldl (fun gs row => addRow p row gs) []

/-- A text put into texts in strictly increasing order. -/
def insertKey (key : String) : List String → List String
  | [] => [key]
  | k :: rest =>
    if key < k then key :: k :: rest
    else if key = k then k :: rest
    else k :: insertKey key rest

/-- The pivot keys of rows, in strictly increasing order of code points. -/
def pivotKeys (p : Places) (rows : List (List Cell)) : List String :=
  rows.foldl (fun keys row => insertKey (pivotKey p row) keys) []

/-- The header of a pivot key: a date-like one by the pattern, if there is one. -/
def header (pattern : Option String) (key : String) : String :=
  match pattern with
  | some pattern => if looksLikeDate key.toList then (reformatDate? key pattern).getD key else key
  | none => key

/-- The places of the columns of a pivot; dimension columns that are not there are skipped. -/
def places? (r : QueryResult) (c : PivotConfig) : Option Places :=
  match r.columnIndex? c.pivotColumn, r.columnIndex? c.valueColumn with
  | some pivot, some value => some ⟨pivot, value, c.dimensionColumns.filterMap r.columnIndex?⟩
  | _, _ => none

/-- The result pivoted on columns at known places. -/
def pivotAt (r : QueryResult) (pattern : Option String) (p : Places) : QueryResult :=
  let keys := pivotKeys p r.rows
  let rows := (groups p r.rows).map fun g => g.dimensions ++ keys.map g.value
  { columns := p.dimensions.map (fun i => r.columns[i]?.getD "") ++ keys.map (header pattern)
    columnTypes := p.dimensions.map (fun i => (r.columnType? i).getD "") ++
      keys.map fun _ => (r.columnType? p.value).getD ""
    rows := rows
    rowCount := UInt64.ofNat rows.length
    truncated := r.truncated
    executionTimeMs := r.executionTimeMs }

end Pivot

/-- **The result pivoted**; it stays as it is where the pivot or the value column is missing. -/
def QueryResult.pivot (r : QueryResult) (c : PivotConfig) : QueryResult :=
  match Pivot.places? r c with
  | some p => Pivot.pivotAt r c.headerPattern p
  | none => r

end QueryDesk
