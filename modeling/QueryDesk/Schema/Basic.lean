import QueryDesk.Schema.Category

/-! # Database schemas

A snapshot of a database: its tables with their columns, and the relationships between them. Names
are looked up in order, so of two tables with one name the first is found.
-/

set_option autoImplicit false

namespace QueryDesk

/-- **A column of a table**, with the type name the database gives. -/
structure Column where
  name : String
  dataType : String
  nullable : Bool
  isPrimaryKey : Bool
  defaultValue : Option String
deriving DecidableEq

/-- **A table.** -/
structure Table where
  name : String
  schemaName : String
  columns : List Column
  rowCountEstimate : Option UInt64
deriving DecidableEq

/-- **A foreign key** from a column of one table to a column of another. -/
structure Relationship where
  fromTable : String
  fromColumn : String
  toTable : String
  toColumn : String
deriving DecidableEq

/-- **A database schema.** -/
structure Schema where
  tables : List Table
  relationships : List Relationship
deriving DecidableEq

namespace Column

/-- A nullable column that is no key. -/
def ofType (name dataType : String) : Column := ⟨name, dataType, true, false, none⟩

/-- The column as a primary key, which is never null. -/
def asPrimaryKey (c : Column) : Column := { c with isPrimaryKey := true, nullable := false }

/-- The column without nulls. -/
def notNull (c : Column) : Column := { c with nullable := false }

/-- The category of the values of the column. -/
def category (c : Column) : Category := .ofTypeName c.dataType

end Column

namespace Table

/-- A column by its name. -/
def column? (t : Table) (name : String) : Option Column := t.columns.find? fun c => c.name == name

/-- The name with that of its schema in front, where there is one. -/
def qualifiedName (t : Table) : String :=
  if t.schemaName.isEmpty then t.name else t.schemaName ++ "." ++ t.name

end Table

/-- Whether the relationship has an end at the table. -/
def Relationship.touches (r : Relationship) (table : String) : Bool :=
  r.fromTable == table || r.toTable == table

namespace Schema

/-- A table by its name. -/
def table? (s : Schema) (name : String) : Option Table := s.tables.find? fun t => t.name == name

/-- A column by the name of its table and its own. -/
def column? (s : Schema) (table column : String) : Option Column :=
  (s.table? table).bind fun t => t.column? column

end Schema

end QueryDesk
