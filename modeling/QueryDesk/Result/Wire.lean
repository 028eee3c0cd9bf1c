import QueryDesk.Result.Basic
import QueryDesk.Json.Reading
import QueryDesk.Json.Record

/-! # Query results in JSON

How results are written, and how what a backend sends is read. The cells of a row may be any JSON
values, nested no deeper than a document that is held as a whole may nest.
-/

set_option autoImplicit false

namespace QueryDesk

open Json (asText? asBool? asUInt64? asList?)

/-- A cell as it was sent, three containers deep in the document. -/
def heldCell? (v : Json) : Option Json :=
  if v.heldWithin (Json.nestingLimit - 3) then some v else none

/-- A result as it was sent, read from JSON. -/
def RawResult.ofJson? (v : Json) : Option RawResult := do
  let f ← v.fields?
    ["columns", "columnTypes", "rows", "rowCount", "truncated", "executionTimeMs"]
  let columns ← f.required "columns" (asList? asText?)
  let columnTypes ← f.withDefault "columnTypes" (asList? asText?) []
  let rows ← f.withDefault "rows" (asList? (asList? heldCell?)) []
  let rowCount ← f.optional "rowCount" asUInt64?
  let truncated ← f.withDefault "truncated" asBool? false
  let executionTimeMs ← f.withDefault "executionTimeMs" asUInt64? 0
  some ⟨columns, columnTypes, rows, rowCount, truncated, executionTimeMs⟩

/-- Why a result was not read. -/
inductive ResultError where
  | malformed
  | shape (e : ShapeError)
deriving DecidableEq

namespace QueryResult

/-- The result in JSON. -/
def toJson (r : QueryResult) : Json :=
  .object [("columns", .ofList .text r.columns), ("columnTypes", .ofList .text r.columnTypes),
    ("rows", .ofList (Json.ofList Cell.toJson) r.rows), ("rowCount", .natural r.rowCount),
    ("truncated", .bool r.truncated), ("executionTimeMs", .natural r.executionTimeMs)]

/-- **A result read from JSON.** -/
def ofJson (v : Json) : Except ResultError QueryResult :=
  match RawResult.ofJson? v with
  | none => .error .malformed
  | some raw => match ofRaw raw with
    | .ok r => .ok r
    | .error e => .error (.shape e)

/-- **A result read from a text.** -/
def read (text : String) : Except ResultError QueryResult :=
  match Json.parse? text with
  | none => .error .malformed
  | some v => ofJson v

end QueryResult

end QueryDesk
