import QueryDesk.Proofs.Query.WellFormed
import QueryDesk.Query.Executable

/-! # What is missing in a query that can be sent

`Query.Ready` says what is checked of a query before it is sent, and `executable?_eq_some_iff` that nothing
else is. All of it refers to the tables of the query, and every output column, filter and join has its
columns picked. An entry of the order or of the grouping is not asked for a column: a query with one that was
never picked is sent (`sent_with_unpicked_sort`), and apart from such entries nothing is missing
(`complete_iff_entries_picked`).
-/

set_option autoImplicit false

namespace QueryDesk

/-! ## Parts that are complete -/

theorem not_isEmpty_iff {s : String} : (!s.isEmpty) = true ↔ s ≠ "" := by simp

theorem Selection.isComplete_iff {s : Selection} : s.isComplete = true ↔ s.column ≠ "" :=
  not_isEmpty_iff

theorem Join.isComplete_iff {j : Join} :
    j.isComplete = true ↔ j.fromColumn ≠ "" ∧ j.toColumn ≠ "" := by
  rw [isComplete, Bool.and_eq_true, not_isEmpty_iff, not_isEmpty_iff]

/-- A filter is never complete without a column, whatever its operator. -/
theorem Filter.column_ne_of_isComplete {f : Filter} (h : f.isComplete = true) : f.column ≠ "" := by
  rw [isComplete, Bool.and_eq_true] at h
  exact not_isEmpty_iff.mp h.1

namespace Query

/-! ## What is checked -/

/-- **A query as it is sent.** -/
structure Ready (q : Query) : Prop where
  tables : q.tables ≠ []
  columns : q.columns ≠ []
  refers : q.RefersToTables
  columnsPicked : ∀ c ∈ q.columns, c.column ≠ ""
  filtersComplete : ∀ f ∈ q.filters, f.isComplete = true
  joinsPicked : ∀ j ∈ q.joins, j.fromColumn ≠ "" ∧ j.toColumn ≠ ""

theorem refersToItsTables_iff {q : Query} : q.refersToItsTables = true ↔ q.RefersToTables := by
  simp only [refersToItsTables, Bool.and_eq_true, List.all_eq_true, hasTableId_iff_mem_ids]
  constructor
  · rintro ⟨⟨⟨⟨columns, filters⟩, sorts⟩, groupings⟩, joins⟩
    exact ⟨columns, filters, sorts, groupings, joins⟩
  · intro h
    exact ⟨⟨⟨⟨h.columns, h.filters⟩, h.sorts⟩, h.groupings⟩, h.joins⟩

theorem isReady_iff {q : Query} : q.isReady = true ↔ q.Ready := by
  simp only [isReady, Bool.and_eq_true, Bool.not_eq_eq_eq_not, Bool.not_true, List.isEmpty_eq_false_iff,
    List.all_eq_true, refersToItsTables_iff, Selection.isComplete_iff, Join.isComplete_iff]
  constructor
  · rintro ⟨⟨⟨⟨⟨tables, columns⟩, columnsPicked⟩, refers⟩, filtersComplete⟩, joinsPicked⟩
    exact ⟨tables, columns, refers, columnsPicked, filtersComplete, joinsPicked⟩
  · intro h
    exact ⟨⟨⟨⟨⟨h.tables, h.columns⟩, h.columnsPicked⟩, h.refers⟩, h.filtersComplete⟩, h.joinsPicked⟩

/-- **What is sent is the query without placeholders, and only if that is ready.** -/
theorem executable?_eq_some_iff {q e : Query} :
    q.executable? = some e ↔ e = q.withoutPlaceholders ∧ e.Ready := by
  rw [executable?, Option.ite_none_right_eq_some, isReady_iff, Option.some.injEq]
  constructor
  · rintro ⟨ready, rfl⟩
    exact ⟨rfl, ready⟩
  · rintro ⟨rfl, ready⟩
    exact ⟨ready, rfl⟩

/-! ## What is missing -/

/-- Whether a column was picked, of a table of the query. -/
def Names (q : Query) (tableId column : String) : Prop := column ≠ "" ∧ tableId ∈ q.ids

/-- **A query in which nothing is missing**: there are tables and output columns, and everything names a
column of one of the tables. -/
structure Complete (q : Query) : Prop where
  tables : q.tables ≠ []
  columns : q.columns ≠ []
  selections : ∀ c ∈ q.columns, q.Names c.tableId c.column
  filters : ∀ f ∈ q.filters, q.Names f.tableId f.column
  joins : ∀ j ∈ q.joins, q.Names j.fromTableId j.fromColumn ∧ q.Names j.toTableId j.toColumn
  sorts : ∀ s ∈ q.sorts, q.Names s.tableId s.column
  groupings : ∀ g ∈ q.groupings, q.Names g.tableId g.column

/-- What is ready is complete as soon as the columns of the order and of the grouping are picked. -/
theorem Ready.complete {q : Query} (h : q.Ready) (sorts : ∀ s ∈ q.sorts, s.column ≠ "")
    (groupings : ∀ g ∈ q.groupings, g.column ≠ "") : q.Complete where
  tables := h.tables
  columns := h.columns
  selections c hc := ⟨h.columnsPicked c hc, h.refers.columns c hc⟩
  filters f hf := ⟨Filter.column_ne_of_isComplete (h.filtersComplete f hf), h.refers.filters f hf⟩
  joins j hj := by
    obtain ⟨hsource, htarget⟩ := h.joinsPicked j hj
    obtain ⟨hfrom, hto⟩ := h.refers.joins j hj
    exact ⟨⟨hsource, hfrom⟩, ⟨htarget, hto⟩⟩
  sorts s hs := ⟨sorts s hs, h.refers.sorts s hs⟩
  groupings g hg := ⟨groupings g hg, h.refers.groupings g hg⟩

/-- **Nothing but columns of the order and of the grouping can be missing in what is sent.** A query that is
sent is ready, so that everything in it refers to its tables, and output columns, filters and joins have
their columns picked; it is complete exactly if the entries of its order and of its grouping, which are those
of the query it was made of, have theirs picked too. -/
theorem complete_iff_entries_picked {q e : Query} (h : q.executable? = some e) :
    e.Ready ∧ (e.Complete ↔
      (∀ s ∈ q.sorts, s.column ≠ "") ∧ ∀ g ∈ q.groupings, g.column ≠ "") := by
  obtain ⟨rfl, ready⟩ := executable?_eq_some_iff.mp h
  refine ⟨ready, ?_⟩
  constructor
  · intro complete
    exact ⟨fun s hs => (complete.sorts s hs).1, fun g hg => (complete.groupings g hg).1⟩
  · rintro ⟨sorts, groupings⟩
    exact ready.complete sorts groupings

/-- A session that ends with everything picked but an output column that was never filled in. -/
def dailyEdits : List Edit :=
  [.addTable "orders", .addColumn "t1" "day", .addColumn "t1" "amount", .setAggregation 1 .sum,
   .addColumn "t1" "", .addFilter ⟨"t1", "amount", .isNotNull, none⟩, .addGrouping ⟨"t1", "day"⟩,
   .addSort ⟨"t1", "day", .desc⟩]

/-- The row that was never filled in is left out, and nothing is missing in the rest. -/
theorem complete_daily :
    ∃ e, (empty.editAll shopSchema dailyEdits).executable? = some e ∧ e.columns.length = 2 ∧
      e.Complete := by
  refine ⟨(empty.editAll shopSchema dailyEdits).withoutPlaceholders, by decide, by decide, ?_⟩
  exact (complete_iff_entries_picked (q := empty.editAll shopSchema dailyEdits) (by decide)).2.mpr
    ⟨by decide, by decide⟩

/-- A session that ends with an entry of the order whose column was not picked yet. -/
def unpickedEdits : List Edit :=
  [.addTable "orders", .addColumn "t1" "amount", .addSort ⟨"t1", "", .asc⟩]

/-- **A query can be sent with an order by no column.** -/
theorem sent_with_unpicked_sort :
    ¬∀ q e : Query, q.executable? = some e → e.Complete := by
  intro h
  have complete := h (empty.editAll shopSchema unpickedEdits)
    (empty.editAll shopSchema unpickedEdits).withoutPlaceholders (by decide)
  have hsort : ⟨"t1", "", .asc⟩ ∈ (empty.editAll shopSchema unpickedEdits).withoutPlaceholders.sorts := by
    decide
  exact (complete.sorts _ hsort).1 rfl

end Query

end QueryDesk
