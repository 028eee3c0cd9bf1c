import QueryDesk.Query.Filter

/-! # Query definitions

A query as it is put together without writing SQL: tables with short ids of their own, joins, output
columns, filters, grouping, order and a window of rows. Everything but the tables refers to a table
by its id.
-/

set_option autoImplicit false

namespace QueryDesk

/-- A column of a table of the query. -/
structure ColumnRef where
  tableId : String
  column : String
deriving DecidableEq

/-- **A table of a query**, under an id of its own. -/
structure QueryTable where
  id : String
  name : String
  label : Option String
deriving DecidableEq

/-- **An output column**; the column is empty while none was picked. -/
structure Selection where
  tableId : String
  column : String
  aggregation : Aggregation
  label : Option String
  interval : Option Interval
deriving DecidableEq

/-- How the rows of two tables are joined. -/
inductive JoinKind where
  | inner
  | left
  | right
  | full
deriving DecidableEq

/-- **A join** of two tables on two columns. -/
structure Join where
  fromTableId : String
  fromColumn : String
  toTableId : String
  toColumn : String
  kind : JoinKind
deriving DecidableEq

/-- The direction of an order. -/
inductive Direction where
  | asc
  | desc
deriving DecidableEq

/-- **An entry of the order** of the rows. -/
structure SortKey where
  tableId : String
  column : String
  direction : Direction
deriving DecidableEq

/-- **An entry of the grouping** of the rows. -/
structure Grouping where
  tableId : String
  column : String
deriving DecidableEq

/-- **A query definition.** -/
structure Query where
  tables : List QueryTable
  joins : List Join
  columns : List Selection
  filters : List Filter
  groupings : List Grouping
  sorts : List SortKey
  limit : Option UInt32
  offset : Option UInt32
deriving DecidableEq

namespace JoinKind

/-- Every kind of join. -/
def all : List JoinKind := [.inner, .left, .right, .full]

/-- The word for the kind in files and requests. -/
def word : JoinKind → String
  | .inner => "inner"
  | .left => "left"
  | .right => "right"
  | .full => "full"

/-- The kind that a word of a file stands for. -/
def ofWord? (s : String) : Option JoinKind := all.find? fun k => k.word == s

theorem ofWord?_word (k : JoinKind) : ofWord? k.word = some k := by cases k <;> decide

/-- The kind as people read it. -/
def title : JoinKind → String
  | .inner => "INNER JOIN"
  | .left => "LEFT JOIN"
  | .right => "RIGHT JOIN"
  | .full => "FULL JOIN"

end JoinKind

namespace Direction

/-- The word for the direction in files and requests. -/
def word : Direction → String
  | .asc => "asc"
  | .desc => "desc"

/-- The direction that a word of a file stands for. -/
def ofWord? (s : String) : Option Direction := [asc, desc].find? fun d => d.word == s

theorem ofWord?_word (d : Direction) : ofWord? d.word = some d := by cases d <;> decide

end Direction

/-- A table of a query without a label. -/
def QueryTable.plain (id name : String) : QueryTable := ⟨id, name, none⟩

namespace Selection

/-- A column as it is. -/
def plain (tableId column : String) : Selection := ⟨tableId, column, .raw, none, none⟩

/-- The column that is selected. -/
def columnRef (s : Selection) : ColumnRef := ⟨s.tableId, s.column⟩

/-- Whether the row was added but not filled in yet. -/
def isPlaceholder (s : Selection) : Bool := s.column.isEmpty && s.aggregation == .raw

/-- Whether a column was picked. -/
def isComplete (s : Selection) : Bool := !s.column.isEmpty

/-- The name of the output column: its label, or else the name of the column. -/
def displayName (s : Selection) : String := s.label.getD s.column

end Selection

/-- Whether both columns of the join were picked. -/
def Join.isComplete (j : Join) : Bool := !j.fromColumn.isEmpty && !j.toColumn.isEmpty

/-- The column that is ordered by. -/
def SortKey.columnRef (s : SortKey) : ColumnRef := ⟨s.tableId, s.column⟩

/-- The column that is grouped by. -/
def Grouping.columnRef (g : Grouping) : ColumnRef := ⟨g.tableId, g.column⟩

namespace Query

/-- The query with nothing in it. -/
def empty : Query := ⟨[], [], [], [], [], [], none, none⟩

/-- A table of the query by its id. -/
def table? (q : Query) (id : String) : Option QueryTable := q.tables.find? fun t => t.id == id

/-- Whether a table of this name is in the query. -/
def hasTableNamed (q : Query) (name : String) : Bool := q.tables.any fun t => t.name == name

/-- Whether a table of the query has this id. -/
def hasTableId (q : Query) (id : String) : Bool := q.tables.any fun t => t.id == id

/-- Whether nothing was selected yet. -/
def isEmpty (q : Query) : Bool := q.tables.isEmpty && q.columns.isEmpty

/-- The query with the signs of zeros in filters forgotten. -/
def plainZeros (q : Query) : Query :=
  { q with filters := q.filters.map fun f => { f with value := f.value.map Operand.plainZeros } }

/-- Whether two queries are the same, numbers in filters compared as numbers. -/
def agrees (q r : Query) : Bool := q.plainZeros == r.plainZeros

end Query

end QueryDesk
