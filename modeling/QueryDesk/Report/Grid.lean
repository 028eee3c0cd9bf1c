import QueryDesk.Result.Basic
import QueryDesk.Result.Display

/-! # Results as grids

A result as lines of text: a header, a rule, and a line for every row, all of one length, with every
column as wide as its widest cell in characters; then an empty line and what is known about the
rows. A result without rows is a single line.
-/

set_option autoImplicit false

namespace QueryDesk

/-- A text with spaces behind it, at least so many characters long. -/
def padded (width : Nat) (s : String) : String := s ++ String.ofList (List.replicate (width - s.length) ' ')

/-- So many dashes. -/
def dashes (count : Nat) : String := String.ofList (List.replicate count '-')

namespace Grid

/-- What stands between two columns. -/
def separator : String := " | "

/-- The width of the column at an index: the widest of its name and its cells. There is none where a
row has no cell at the index. -/
def columnWidth? (rows : List (List String)) (index : Nat) (name : String) : Option Nat :=
  rows.foldlM (fun width row => row[index]?.map fun cell => max width cell.length) name.length

/-- The widths of all columns. -/
def widths? (columns : List String) (rows : List (List String)) : Option (List Nat) :=
  columns.zipIdx.mapM fun (name, index) => columnWidth? rows index name

/-- A line of the grid. -/
def line (widths : List Nat) (cells : List String) : String :=
  separator.intercalate (List.zipWith padded widths cells)

/-- The rule below the header. -/
def rule (widths : List Nat) : String := dashes (widths.foldl (· + ·) 0 + 3 * (widths.length - 1))

/-- The header, the rule and the rows. -/
def block (columns : List String) (rows : List (List String)) (widths : List Nat) : List String :=
  line widths columns :: rule widths :: rows.map (line widths)

/-- What is known about the rows of a result. -/
def footer (r : QueryResult) : String :=
  toString r.rowCount.toNat ++ " rows" ++ (if r.truncated then " (truncated)" else "") ++
    (if 0 < r.executionTimeMs then " in " ++ toString r.executionTimeMs.toNat ++ " ms" else "")

end Grid

/-- The cells of a result as they are shown. -/
def QueryResult.shownRows (r : QueryResult) (pattern : Option String) : List (List String) :=
  r.rows.map fun row => row.map (Cell.shown pattern)

/-- **A result as a grid**, line by line; there is none if a row is too short. -/
def QueryResult.grid? (r : QueryResult) (pattern : Option String) : Option (List String) :=
  if r.isEmpty then some ["No rows"]
  else
    let rows := r.shownRows pattern
    (Grid.widths? r.columns rows).map fun widths =>
      Grid.block r.columns rows widths ++ ["", Grid.footer r]

end QueryDesk
