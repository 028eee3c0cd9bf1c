import QueryDesk.Query.Edit

/-! # What may be edited next

What an editor offers for a query: the tables that can still be added, the columns for an entry of
the order or of the grouping, with those in use marked, and the tables one relationship away.
-/

set_option autoImplicit false

namespace QueryDesk

/-- **A column offered** for the order or the grouping; it can be chosen unless another entry has
it. -/
structure ColumnChoice where
  tableId : String
  tableName : String
  column : String
  category : Category
  selectable : Bool
deriving DecidableEq

/-- **A table one relationship away** from the query, and the relationship. -/
structure RelatedTable where
  table : String
  relationship : Relationship
deriving DecidableEq

namespace Query

/-- The tables of the schema that are not in the query, in the order of the schema. -/
def availableTables (q : Query) (schema : Schema) : List Table :=
  schema.tables.filter fun t => !q.hasTableNamed t.name

/-! ## Columns -/

/-- The columns of the entries of a list, without the entry that is edited. -/
def usedColumns (columns : List ColumnRef) (editing : Option Nat) : List ColumnRef :=
  (columns.zipIdx.filter fun entry => some entry.2 != editing).map Prod.fst

/-- The columns of one table of the query; those in use stay visible but cannot be chosen. -/
def choicesOf (schema : Schema) (used : List ColumnRef) (t : QueryTable) : List ColumnChoice :=
  match schema.table? t.name with
  | none => []
  | some table => table.columns.map fun c =>
    ⟨t.id, t.name, c.name, c.category, !used.any fun u => u.tableId == t.id && u.column == c.name⟩

/-- The columns of all tables of the query, in the order of the tables. -/
def columnChoices (q : Query) (schema : Schema) (used : List ColumnRef) : List ColumnChoice :=
  q.tables.flatMap (choicesOf schema used)

/-- **The columns for an entry of the order**, the one at `editing` or a new one. -/
def sortChoices (q : Query) (schema : Schema) (editing : Option Nat) : List ColumnChoice :=
  q.columnChoices schema (usedColumns (q.sorts.map SortKey.columnRef) editing)

/-- **The columns for an entry of the grouping**, the one at `editing` or a new one. -/
def groupingChoices (q : Query) (schema : Schema) (editing : Option Nat) : List ColumnChoice :=
  q.columnChoices schema (usedColumns (q.groupings.map Grouping.columnRef) editing)

/-! ## Related tables -/

/-- How many related tables are suggested at most. -/
def relatedLimit : Nat := 3

/-- The table at the other end of a relationship that has exactly one end in the query. -/
def otherEnd? (q : Query) (r : Relationship) : Option RelatedTable :=
  match q.hasTableNamed r.fromTable, q.hasTableNamed r.toTable with
  | true, false => some ⟨r.toTable, r⟩
  | false, true => some ⟨r.fromTable, r⟩
  | _, _ => none

/-- Of the suggestions for one table the first. -/
def firstPerTable (suggestions : List RelatedTable) : List RelatedTable :=
  suggestions.foldl
    (fun kept s => if kept.any (fun k => k.table == s.table) then kept else kept ++ [s]) []

/-- **The tables one relationship away**, in the order of the relationships, each once and the first
three only. -/
def relatedTables (q : Query) (schema : Schema) : List RelatedTable :=
  (firstPerTable (schema.relationships.filterMap q.otherEnd?)).take relatedLimit

end Query

/-- **The join that brings in a related table** under a new id, from the end that is in the query;
`none` once that end is not in the query. -/
def RelatedTable.join? (r : RelatedTable) (q : Query) (newTableId : String) : Option Join :=
  let rel := r.relationship
  let (presentTable, presentColumn, newColumn) :=
    if rel.toTable == r.table then (rel.fromTable, rel.fromColumn, rel.toColumn)
    else (rel.toTable, rel.toColumn, rel.fromColumn)
  (q.tables.find? fun t => t.name == presentTable).map fun present =>
    ⟨present.id, presentColumn, newTableId, newColumn, .left⟩

end QueryDesk
