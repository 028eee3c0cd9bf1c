import QueryDesk.Query.Basic

/-! # Queries that can be sent

A query can be sent once nothing in it is half done. Rows that were added but never filled in do not
count; everything else that misses a part keeps the whole query back.
-/

set_option autoImplicit false

namespace QueryDesk.Query

/-- The query without rows that were never filled in. -/
def withoutPlaceholders (q : Query) : Query :=
  { q with columns := q.columns.filter fun c => !c.isPlaceholder }

/-- Whether everything in the query refers to a table of the query. -/
def refersToItsTables (q : Query) : Bool :=
  q.columns.all (fun c => q.hasTableId c.tableId) &&
  q.filters.all (fun f => q.hasTableId f.tableId) &&
  q.sorts.all (fun s => q.hasTableId s.tableId) &&
  q.groupings.all (fun g => q.hasTableId g.tableId) &&
  q.joins.all (fun j => q.hasTableId j.fromTableId && q.hasTableId j.toTableId)

/-- Whether a query without placeholders is ready: it has tables and output columns, every output
column, filter and join is complete, and all of it refers to its tables. -/
def isReady (q : Query) : Bool :=
  !q.tables.isEmpty && !q.columns.isEmpty &&
  q.columns.all Selection.isComplete && q.refersToItsTables &&
  q.filters.all Filter.isComplete && q.joins.all Join.isComplete

/-- **The query to send**, or `none` while it is not ready. -/
def executable? (q : Query) : Option Query :=
  if q.withoutPlaceholders.isReady then some q.withoutPlaceholders else none

end QueryDesk.Query
