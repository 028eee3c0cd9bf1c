import QueryDesk.Report.Grid

/-! # Results as CSV

A result as records of fields with commas between them. A field is quoted if it holds a comma, a
quotation mark or the end of a line; a record that would be an empty line is a quoted empty field.
-/

set_option autoImplicit false

namespace QueryDesk.Csv

/-- Whether a character makes a field quoted. -/
def isSpecial (c : Char) : Bool := c == ',' || c == '"' || c == '\r' || c == '\n'

/-- A field between quotation marks, each quotation mark in it written twice. -/
def quoted (field : List Char) : List Char :=
  '"' :: field.flatMap (fun c => if c = '"' then ['"', '"'] else [c]) ++ ['"']

/-- A field as it is written. -/
def field (s : String) : List Char := if s.toList.any isSpecial then quoted s.toList else s.toList

/-- A record as it is written, without the end of its line. -/
def record (fields : List String) : List Char :=
  let written := List.intercalate [','] (fields.map field)
  if written.isEmpty then quoted [] else written

end QueryDesk.Csv

namespace QueryDesk

/-- **A result as CSV**, line by line. -/
def QueryResult.csv (r : QueryResult) (pattern : Option String) : List String :=
  (r.columns :: r.shownRows pattern).map fun fields => String.ofList (Csv.record fields)

end QueryDesk
