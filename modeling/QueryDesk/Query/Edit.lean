import QueryDesk.Query.TableId
import QueryDesk.Schema.Basic
import QueryDesk.Text.Blank

/-! # Editing a query

One small change of a query at a time. `Query.edit?` makes the change or declines it; an edit is
declined when the query would not stay sound: an aggregation that the column cannot have, a second
entry for one column of the order, an index past the end. `Query.edit` leaves the query as it is
when the edit is declined.
-/

set_option autoImplicit false

namespace QueryDesk

/-- **One change of a query.** -/
inductive Edit where
  | addTable (name : String)
  | removeTable (tableId : String)
  | addJoin (join : Join)
  | removeJoin (index : Nat)
  | addColumn (tableId column : String)
  | setColumn (index : Nat) (column : String)
  | removeColumn (index : Nat)
  | moveColumn (source target : Nat)
  | setAggregation (index : Nat) (aggregation : Aggregation)
  | setInterval (index : Nat) (interval : Option Interval)
  | setLabel (index : Nat) (label : Option String)
  | addFilter (filter : Filter)
  | updateFilter (index : Nat) (filter : Filter)
  | removeFilter (index : Nat)
  | addSort (sort : SortKey)
  | updateSort (index : Nat) (sort : SortKey)
  | removeSort (index : Nat)
  | addGrouping (grouping : Grouping)
  | removeGrouping (index : Nat)
  | setLimit (limit : Option UInt32)
  | setOffset (offset : Option UInt32)

/-! ## Lists -/

section Lists

variable {α : Type}

/-- **One item moved** to another place, the others in their order. -/
def moveItem? (items : List α) (source target : Nat) : Option (List α) :=
  if target < items.length then
    items[source]?.map fun item => (items.eraseIdx source).insertIdx target item
  else none

/-- The list without the item at an index. -/
def removeAt? (items : List α) (index : Nat) : Option (List α) :=
  if index < items.length then some (items.eraseIdx index) else none

/-- The list with another item at an index. -/
def replaceAt? (items : List α) (index : Nat) (item : α) : Option (List α) :=
  if index < items.length then some (items.set index item) else none

/-- The items other than the one at an index, if there is an index. -/
def othersThan (items : List α) : Option Nat → List α
  | none => items
  | some index => items.eraseIdx index

end Lists

namespace Query

/-! ## What an edit looks at -/

/-- The category of a column of the query; one that the schema does not know is unknown. -/
def category (q : Query) (schema : Schema) (tableId column : String) : Category :=
  match (q.table? tableId).bind fun t => schema.column? t.name column with
  | some c => c.category
  | none => .unknown

/-- The category of the column that is selected. -/
def categoryOf (q : Query) (schema : Schema) (s : Selection) : Category :=
  q.category schema s.tableId s.column

/-- **The aggregations offered** for the output column at an index. -/
def aggregations? (q : Query) (schema : Schema) (index : Nat) : Option (List Aggregation) :=
  q.columns[index]?.map fun s => (q.categoryOf schema s).aggregations

/-- Whether an entry of the order other than the one that is edited has the column already. -/
def sortTaken (q : Query) (c : ColumnRef) (editing : Option Nat) : Bool :=
  (othersThan q.sorts editing).any fun s => s.columnRef == c

/-- Whether an entry of the grouping other than the one that is edited has the column already. -/
def groupingTaken (q : Query) (c : ColumnRef) (editing : Option Nat) : Bool :=
  (othersThan q.groupings editing).any fun g => g.columnRef == c

/-! ## Making an edit -/

/-- The query without a table and without everything that refers to it. -/
def withoutTable (q : Query) (tableId : String) : Query :=
  { q with
    tables := q.tables.filter fun t => t.id != tableId
    columns := q.columns.filter fun c => c.tableId != tableId
    filters := q.filters.filter fun f => f.tableId != tableId
    sorts := q.sorts.filter fun s => s.tableId != tableId
    groupings := q.groupings.filter fun g => g.tableId != tableId
    joins := q.joins.filter fun j => j.fromTableId != tableId && j.toTableId != tableId }

/-- A selection with another column, and with what that column cannot have taken back. -/
def reselect (q : Query) (schema : Schema) (s : Selection) (column : String) : Selection :=
  let c := q.category schema s.tableId column
  { s with
    column := column
    aggregation := if c.allows s.aggregation then s.aggregation else .raw
    interval := if c.isTruncatable then s.interval else none }

/-- A label, unless it is blank. -/
def usableLabel (label : Option String) : Option String :=
  label.filter fun s => !Text.isAllBlank s

/-- The query with the output column at an index changed, if the change is allowed. -/
def changeColumn? (q : Query) (index : Nat) (change : Selection → Option Selection) :
    Option Query := do
  let s ← q.columns[index]?
  let s ← change s
  some { q with columns := q.columns.set index s }

/-- **The query after an edit**, or `none` if the edit is declined. -/
def edit? (q : Query) (schema : Schema) : Edit → Option Query
  | .addTable name =>
    if (schema.table? name).isNone || q.hasTableNamed name then none
    else some { q with tables := q.tables ++ [.plain q.nextTableId name] }
  | .removeTable tableId => if q.hasTableId tableId then some (q.withoutTable tableId) else none
  | .addJoin join =>
    if !q.hasTableId join.fromTableId || !q.hasTableId join.toTableId || q.joins.contains join then
      none
    else some { q with joins := q.joins ++ [join] }
  | .removeJoin index => (removeAt? q.joins index).map fun joins => { q with joins }
  | .addColumn tableId column =>
    if q.hasTableId tableId then
      some { q with columns := q.columns ++ [.plain tableId column] }
    else none
  | .setColumn index column => q.changeColumn? index fun s => some (q.reselect schema s column)
  | .removeColumn index => (removeAt? q.columns index).map fun columns => { q with columns }
  | .moveColumn source target =>
    (moveItem? q.columns source target).map fun columns => { q with columns }
  | .setAggregation index aggregation =>
    q.changeColumn? index fun s =>
      if (q.categoryOf schema s).allows aggregation then some { s with aggregation } else none
  | .setInterval index interval =>
    q.changeColumn? index fun s =>
      if interval.isSome && !(q.categoryOf schema s).isTruncatable then none
      else some { s with interval }
  | .setLabel index label =>
    q.changeColumn? index fun s => some { s with label := usableLabel label }
  | .addFilter filter =>
    if q.hasTableId filter.tableId then some { q with filters := q.filters ++ [filter] } else none
  | .updateFilter index filter =>
    if q.hasTableId filter.tableId then
      (replaceAt? q.filters index filter).map fun filters => { q with filters }
    else none
  | .removeFilter index => (removeAt? q.filters index).map fun filters => { q with filters }
  | .addSort sort =>
    if !q.hasTableId sort.tableId || q.sortTaken sort.columnRef none then none
    else some { q with sorts := q.sorts ++ [sort] }
  | .updateSort index sort =>
    if !q.hasTableId sort.tableId || q.sortTaken sort.columnRef (some index) then none
    else (replaceAt? q.sorts index sort).map fun sorts => { q with sorts }
  | .removeSort index => (removeAt? q.sorts index).map fun sorts => { q with sorts }
  | .addGrouping grouping =>
    if !q.hasTableId grouping.tableId || q.groupingTaken grouping.columnRef none then none
    else some { q with groupings := q.groupings ++ [grouping] }
  | .removeGrouping index =>
    (removeAt? q.groupings index).map fun groupings => { q with groupings }
  | .setLimit limit => some { q with limit }
  | .setOffset offset => some { q with offset }

/-- **The query after an edit**; a declined edit changes nothing. -/
def edit (q : Query) (schema : Schema) (e : Edit) : Query := (q.edit? schema e).getD q

/-- The query after edits in a row. -/
def editAll (q : Query) (schema : Schema) (edits : List Edit) : Query :=
  edits.foldl (fun q e => q.edit schema e) q

end Query

end QueryDesk
