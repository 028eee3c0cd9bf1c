import QueryDesk.Chart.Suggestion
import QueryDesk.Report.Grid
import QueryDesk.Schema.Basic

/-! # Listings

The tables of a schema and the charts suggested for a result, line by line.
-/

set_option autoImplicit false

namespace QueryDesk

namespace Table

/-- A line about a column of a table. -/
def columnLine (c : Column) : String :=
  "    " ++ padded 26 c.name ++ " " ++ padded 20 c.dataType ++ " " ++ c.category.word ++
    (if c.isPrimaryKey then " (pk)" else "")

/-- The line about a table. -/
def line (t : Table) : String :=
  padded 30 t.qualifiedName ++ " " ++ padded 10 (toString t.columns.length) ++ " " ++
    (match t.rowCountEstimate with
    | some n => toString n.toNat
    | none => "-")

/-- The lines about a table, with its columns where they are asked for. -/
def lines (withColumns : Bool) (t : Table) : List String :=
  t.line :: (if withColumns then t.columns.map columnLine else [])

end Table

/-- **The tables of a schema**, with their columns where they are asked for. -/
def Schema.listing (s : Schema) (withColumns : Bool) : List String :=
  if s.tables.isEmpty then ["No tables found."]
  else
    (padded 30 "Table" ++ " " ++ padded 10 "Columns" ++ " Rows (est.)") :: dashes 55 ::
      s.tables.flatMap (Table.lines withColumns)

/-- The line about a suggestion. -/
def Suggestion.line (s : Suggestion) : String :=
  s.kind.word ++ " " ++ padded 12 (String.ofList (s.confidence.fixedText 2)) ++ " " ++ s.reason

/-- **Suggested charts.** -/
def suggestionListing (suggestions : List Suggestion) : List String :=
  if suggestions.isEmpty then ["No chart suggestions for this result."]
  else
    (padded 10 "Chart" ++ " " ++ padded 12 "Confidence" ++ " Reason") :: dashes 60 ::
      suggestions.map Suggestion.line

end QueryDesk
