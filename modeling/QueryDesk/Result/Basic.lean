import QueryDesk.Result.Cell

/-! # Query results

A result as the backend sends it (`RawResult`) and as it is worked with (`QueryResult`): a header, a
type name for every column, and rows of cells. `QueryResult.ofRaw` checks the shape: a type for
every column and a cell for every column in every row.
-/

set_option autoImplicit false

namespace QueryDesk

/-- **A result as it was sent.** -/
structure RawResult where
  columns : List String
  columnTypes : List String
  rows : List (List Json)
  rowCount : Option UInt64
  truncated : Bool
  executionTimeMs : UInt64

/-- **A query result.** -/
structure QueryResult where
  columns : List String
  columnTypes : List String
  rows : List (List Cell)
  rowCount : UInt64
  truncated : Bool
  executionTimeMs : UInt64
deriving DecidableEq

/-- Why a result has not the shape of a table. -/
inductive ShapeError where
  | columnTypeMismatch (columns types : Nat)
  | raggedRow (row expected found : Nat)
deriving DecidableEq

/-- The message of an error. -/
def ShapeError.message : ShapeError → String
  | .columnTypeMismatch columns types =>
    "Column count mismatch: " ++ toString columns ++ " columns but " ++ toString types ++
      " column types"
  | .raggedRow row expected found =>
    "Row " ++ toString row ++ " has " ++ toString found ++ " cells, expected " ++ toString expected

/-- The first of the rows, counted from `row`, that has not as many cells as there are columns. -/
def raggedRow? (columns : Nat) (row : Nat) : List Nat → Option ShapeError
  | [] => none
  | found :: rest =>
    if found = columns then raggedRow? columns (row + 1) rest
    else some (.raggedRow row columns found)

/-- What is wrong with a shape: the types first, then the first row with another length. -/
def shapeError? (columns types : Nat) (rowLengths : List Nat) : Option ShapeError :=
  if columns = types then raggedRow? columns 0 rowLengths
  else some (.columnTypeMismatch columns types)

namespace QueryResult

/-- A result made of rows of cells, if they have its shape. -/
def ofRows (columns columnTypes : List String) (rows : List (List Cell)) :
    Except ShapeError QueryResult :=
  match shapeError? columns.length columnTypes.length (rows.map List.length) with
  | some e => .error e
  | none => .ok ⟨columns, columnTypes, rows, UInt64.ofNat rows.length, false, 0⟩

/-- The type names to go with columns: empty ones where none were sent. -/
def typesFor (columns types : List String) : List String :=
  if types.isEmpty then columns.map fun _ => "" else types

/-- **A result made of what was sent**, if it has the shape of a table. -/
def ofRaw (raw : RawResult) : Except ShapeError QueryResult :=
  let types := typesFor raw.columns raw.columnTypes
  match shapeError? raw.columns.length types.length (raw.rows.map List.length) with
  | some e => .error e
  | none =>
    .ok ⟨raw.columns, types, raw.rows.map fun row => row.map Cell.ofValue,
      raw.rowCount.getD (UInt64.ofNat raw.rows.length), raw.truncated, raw.executionTimeMs⟩

/-- The result with what the backend tells about it. -/
def withMeta (r : QueryResult) (truncated : Bool) (executionTimeMs : UInt64) : QueryResult :=
  { r with truncated, executionTimeMs }

/-- Whether there are no rows. -/
def isEmpty (r : QueryResult) : Bool := r.rows.isEmpty

/-- The index of a column, the first of its name. -/
def columnIndex? (r : QueryResult) (name : String) : Option Nat :=
  r.columns.findIdx? fun c => c == name

/-- The type name of a column, if it has one. -/
def columnType? (r : QueryResult) (index : Nat) : Option String := r.columnTypes[index]?

/-- The cells of a column from top to bottom; rows that are too short have none. -/
def columnValues (r : QueryResult) (index : Nat) : List Cell := r.rows.filterMap fun row => row[index]?

end QueryResult

end QueryDesk
