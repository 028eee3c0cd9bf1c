import QueryDesk.Query.Edit
import Mathlib.Data.List.Perm.Basic

/-! # What an edit does

`Query.Step schema q e r` says that the edit `e` is accepted for `q` and gives `r`: one constructor for
every kind of edit, with everything that was checked and everything that changed. It is what
`Query.edit?` computes (`edit?_eq_some_iff`), so a fact about all edits is a case analysis of `Step`.
`invariant_editAll` carries such a fact along a whole session.
-/

set_option autoImplicit false

namespace QueryDesk

/-! ## Changes of lists -/

section Lists

variable {α : Type}

theorem removeAt?_eq_some_iff {items changed : List α} {index : Nat} :
    removeAt? items index = some changed ↔ index < items.length ∧ items.eraseIdx index = changed := by
  simp [removeAt?]

theorem replaceAt?_eq_some_iff {items changed : List α} {index : Nat} {item : α} :
    replaceAt? items index item = some changed ↔
      index < items.length ∧ items.set index item = changed := by
  simp [replaceAt?]

/-- An item that is moved is in the list, and both of its places are. -/
theorem moveItem?_eq_some_iff {items moved : List α} {source target : Nat} :
    moveItem? items source target = some moved ↔
      target < items.length ∧ ∃ item, items[source]? = some item ∧
        (items.eraseIdx source).insertIdx target item = moved := by
  simp [moveItem?, Option.map_eq_some_iff]

/-- A place in a list is the place of one of the others, or the one behind them all. -/
theorem le_length_eraseIdx {items : List α} {source target : Nat} (hs : source < items.length)
    (ht : target < items.length) : target ≤ (items.eraseIdx source).length := by
  rw [List.length_eraseIdx_of_lt hs]
  omega

/-- Moving an item leaves the same items. -/
theorem moveItem?_perm {items moved : List α} {source target : Nat}
    (h : moveItem? items source target = some moved) : moved.Perm items := by
  obtain ⟨ht, item, hitem, rfl⟩ := moveItem?_eq_some_iff.mp h
  obtain ⟨hs, rfl⟩ := List.getElem?_eq_some_iff.mp hitem
  exact (List.perm_insertIdx _ _ (le_length_eraseIdx hs ht)).trans (List.getElem_cons_eraseIdx_perm hs)

end Lists

/-! ## What is checked -/

namespace Category

theorem allows_iff {c : Category} {a : Aggregation} : c.allows a = true ↔ a ∈ c.aggregations :=
  List.contains_iff_mem

theorem isTruncatable_iff {c : Category} : c.isTruncatable = true ↔ c = .date := beq_iff_eq

end Category

namespace Query

/-- Whether a table has an id, by the tables. -/
theorem hasTableId_iff {q : Query} {id : String} :
    q.hasTableId id = true ↔ ∃ t ∈ q.tables, t.id = id := by
  simp [hasTableId, List.any_eq_true]

theorem hasTableNamed_eq_false_iff {q : Query} {name : String} :
    q.hasTableNamed name = false ↔ ∀ t ∈ q.tables, t.name ≠ name := by
  simp [hasTableNamed, List.any_eq_false]

theorem changeColumn?_eq_some_iff {q r : Query} {index : Nat}
    {change : Selection → Option Selection} :
    q.changeColumn? index change = some r ↔
      ∃ s, q.columns[index]? = some s ∧ ∃ s', change s = some s' ∧
        { q with columns := q.columns.set index s' } = r := by
  simp [changeColumn?, Option.bind_eq_some_iff]

theorem sortTaken_eq_false_iff (q : Query) (c : ColumnRef) (editing : Option Nat) :
    q.sortTaken c editing = false ↔ ∀ s ∈ othersThan q.sorts editing, s.columnRef ≠ c := by
  simp [sortTaken, List.any_eq_false]

theorem groupingTaken_eq_false_iff (q : Query) (c : ColumnRef) (editing : Option Nat) :
    q.groupingTaken c editing = false ↔ ∀ g ∈ othersThan q.groupings editing, g.columnRef ≠ c := by
  simp [groupingTaken, List.any_eq_false]

/-! ## Steps -/

/-- **One accepted edit**: what was checked of the query and the schema, and the query after it. -/
inductive Step (schema : Schema) (q : Query) : Edit → Query → Prop
  | addTable {name : String} (known : (schema.table? name).isSome)
      (new : q.hasTableNamed name = false) :
      Step schema q (.addTable name) { q with tables := q.tables ++ [.plain q.nextTableId name] }
  | removeTable {tableId : String} (known : q.hasTableId tableId) :
      Step schema q (.removeTable tableId) (q.withoutTable tableId)
  | addJoin {join : Join} (source : q.hasTableId join.fromTableId)
      (target : q.hasTableId join.toTableId) (new : join ∉ q.joins) :
      Step schema q (.addJoin join) { q with joins := q.joins ++ [join] }
  | removeJoin {index : Nat} (there : index < q.joins.length) :
      Step schema q (.removeJoin index) { q with joins := q.joins.eraseIdx index }
  | addColumn {tableId column : String} (known : q.hasTableId tableId) :
      Step schema q (.addColumn tableId column)
        { q with columns := q.columns ++ [.plain tableId column] }
  | setColumn {index : Nat} {column : String} {s : Selection} (there : q.columns[index]? = some s) :
      Step schema q (.setColumn index column)
        { q with columns := q.columns.set index (q.reselect schema s column) }
  | removeColumn {index : Nat} (there : index < q.columns.length) :
      Step schema q (.removeColumn index) { q with columns := q.columns.eraseIdx index }
  | moveColumn {source target : Nat} {columns : List Selection}
      (moved : moveItem? q.columns source target = some columns) :
      Step schema q (.moveColumn source target) { q with columns }
  | setAggregation {index : Nat} {aggregation : Aggregation} {s : Selection}
      (there : q.columns[index]? = some s)
      (legal : aggregation ∈ (q.categoryOf schema s).aggregations) :
      Step schema q (.setAggregation index aggregation)
        { q with columns := q.columns.set index { s with aggregation } }
  | setInterval {index : Nat} {interval : Option Interval} {s : Selection}
      (there : q.columns[index]? = some s)
      (legal : interval.isSome → q.categoryOf schema s = .date) :
      Step schema q (.setInterval index interval)
        { q with columns := q.columns.set index { s with interval } }
  | setLabel {index : Nat} {label : Option String} {s : Selection}
      (there : q.columns[index]? = some s) :
      Step schema q (.setLabel index label)
        { q with columns := q.columns.set index { s with label := usableLabel label } }
  | addFilter {filter : Filter} (known : q.hasTableId filter.tableId) :
      Step schema q (.addFilter filter) { q with filters := q.filters ++ [filter] }
  | updateFilter {index : Nat} {filter : Filter} (there : index < q.filters.length)
      (known : q.hasTableId filter.tableId) :
      Step schema q (.updateFilter index filter) { q with filters := q.filters.set index filter }
  | removeFilter {index : Nat} (there : index < q.filters.length) :
      Step schema q (.removeFilter index) { q with filters := q.filters.eraseIdx index }
  | addSort {sort : SortKey} (known : q.hasTableId sort.tableId)
      (new : ∀ s ∈ q.sorts, s.columnRef ≠ sort.columnRef) :
      Step schema q (.addSort sort) { q with sorts := q.sorts ++ [sort] }
  | updateSort {index : Nat} {sort : SortKey} (there : index < q.sorts.length)
      (known : q.hasTableId sort.tableId)
      (new : ∀ s ∈ q.sorts.eraseIdx index, s.columnRef ≠ sort.columnRef) :
      Step schema q (.updateSort index sort) { q with sorts := q.sorts.set index sort }
  | removeSort {index : Nat} (there : index < q.sorts.length) :
      Step schema q (.removeSort index) { q with sorts := q.sorts.eraseIdx index }
  | addGrouping {grouping : Grouping} (known : q.hasTableId grouping.tableId)
      (new : ∀ g ∈ q.groupings, g.columnRef ≠ grouping.columnRef) :
      Step schema q (.addGrouping grouping) { q with groupings := q.groupings ++ [grouping] }
  | removeGrouping {index : Nat} (there : index < q.groupings.length) :
      Step schema q (.removeGrouping index) { q with groupings := q.groupings.eraseIdx index }
  | setLimit {limit : Option UInt32} : Step schema q (.setLimit limit) { q with limit }
  | setOffset {offset : Option UInt32} : Step schema q (.setOffset offset) { q with offset }

/-- **An edit is accepted exactly where there is a step, and gives the query after it.** -/
theorem edit?_eq_some_iff {q r : Query} {schema : Schema} {e : Edit} :
    q.edit? schema e = some r ↔ Step schema q e r := by
  constructor
  · -- every check that was passed becomes a premise of the step
    intro h
    cases e with
    | addTable name =>
        simp only [edit?, Option.ite_none_left_eq_some, Option.some.injEq, Bool.or_eq_true, not_or,
          Bool.not_eq_true, Option.isNone_eq_false_iff] at h
        obtain ⟨⟨known, new⟩, rfl⟩ := h
        exact .addTable known new
    | removeTable tableId | addColumn tableId column | addFilter filter =>
        simp only [edit?, Option.ite_none_right_eq_some, Option.some.injEq] at h
        obtain ⟨known, rfl⟩ := h
        constructor
        exact known
    | addJoin join =>
        simp only [edit?, Option.ite_none_left_eq_some, Option.some.injEq, Bool.or_eq_true, not_or,
          Bool.not_eq_true, Bool.not_eq_false', List.contains_iff_mem] at h
        obtain ⟨⟨⟨source, target⟩, new⟩, rfl⟩ := h
        exact .addJoin source target new
    | removeJoin index | removeColumn index | removeFilter index | removeSort index
    | removeGrouping index =>
        simp only [edit?, Option.map_eq_some_iff, removeAt?_eq_some_iff] at h
        obtain ⟨_, ⟨there, rfl⟩, rfl⟩ := h
        constructor
        exact there
    | setColumn index column | setLabel index label =>
        simp only [edit?, changeColumn?_eq_some_iff, Option.some.injEq] at h
        obtain ⟨s, there, _, rfl, rfl⟩ := h
        constructor
        exact there
    | moveColumn source target =>
        simp only [edit?, Option.map_eq_some_iff] at h
        obtain ⟨_, moved, rfl⟩ := h
        exact .moveColumn moved
    | setAggregation index aggregation =>
        simp only [edit?, changeColumn?_eq_some_iff, Option.ite_none_right_eq_some,
          Option.some.injEq, Category.allows_iff] at h
        obtain ⟨s, there, _, ⟨legal, rfl⟩, rfl⟩ := h
        exact .setAggregation there legal
    | setInterval index interval =>
        simp only [edit?, changeColumn?_eq_some_iff, Option.ite_none_left_eq_some,
          Option.some.injEq, Bool.and_eq_true, not_and, Bool.not_eq_true, Bool.not_eq_false',
          Category.isTruncatable_iff] at h
        obtain ⟨s, there, _, ⟨legal, rfl⟩, rfl⟩ := h
        exact .setInterval there legal
    | updateFilter index filter =>
        simp only [edit?, Option.ite_none_right_eq_some, Option.map_eq_some_iff,
          replaceAt?_eq_some_iff] at h
        obtain ⟨known, _, ⟨there, rfl⟩, rfl⟩ := h
        exact .updateFilter there known
    | addSort sort =>
        simp only [edit?, Option.ite_none_left_eq_some, Option.some.injEq, Bool.or_eq_true, not_or,
          Bool.not_eq_true, Bool.not_eq_false', sortTaken_eq_false_iff] at h
        obtain ⟨⟨known, new⟩, rfl⟩ := h
        exact .addSort known new
    | updateSort index sort =>
        simp only [edit?, Option.ite_none_left_eq_some, Option.map_eq_some_iff, Bool.or_eq_true,
          not_or, Bool.not_eq_true, Bool.not_eq_false', sortTaken_eq_false_iff,
          replaceAt?_eq_some_iff] at h
        obtain ⟨⟨known, new⟩, _, ⟨there, rfl⟩, rfl⟩ := h
        exact .updateSort there known new
    | addGrouping grouping =>
        simp only [edit?, Option.ite_none_left_eq_some, Option.some.injEq, Bool.or_eq_true, not_or,
          Bool.not_eq_true, Bool.not_eq_false', groupingTaken_eq_false_iff] at h
        obtain ⟨⟨known, new⟩, rfl⟩ := h
        exact .addGrouping known new
    | setLimit limit | setOffset offset =>
        simp only [edit?, Option.some.injEq] at h
        subst h
        constructor
  · -- and the premises pass every check
    intro h
    cases h with
    | addTable known new => simp [edit?, Option.isSome_iff_ne_none.mp known, new]
    | removeTable known => simp [edit?, known]
    | addColumn known => simp [edit?, known]
    | addFilter known => simp [edit?, known]
    | addJoin source target new => simp [edit?, source, target, new]
    | removeJoin there => simp [edit?, removeAt?, there]
    | removeColumn there => simp [edit?, removeAt?, there]
    | removeFilter there => simp [edit?, removeAt?, there]
    | removeSort there => simp [edit?, removeAt?, there]
    | removeGrouping there => simp [edit?, removeAt?, there]
    | setColumn there => exact changeColumn?_eq_some_iff.mpr ⟨_, there, _, rfl, rfl⟩
    | setLabel there => exact changeColumn?_eq_some_iff.mpr ⟨_, there, _, rfl, rfl⟩
    | moveColumn moved => simp [edit?, moved]
    | setAggregation there legal =>
        exact changeColumn?_eq_some_iff.mpr
          ⟨_, there, _, by rw [if_pos (Category.allows_iff.mpr legal)], rfl⟩
    | setInterval there legal =>
        refine changeColumn?_eq_some_iff.mpr ⟨_, there, _, if_neg ?_, rfl⟩
        simpa [Category.isTruncatable_iff] using legal
    | updateFilter there known => simp [edit?, replaceAt?, there, known]
    | addSort known new => simp [edit?, known, (sortTaken_eq_false_iff q _ none).mpr new]
    | @updateSort index _ there known new =>
        simp [edit?, replaceAt?, there, known, (sortTaken_eq_false_iff q _ (some index)).mpr new]
    | addGrouping known new => simp [edit?, known, (groupingTaken_eq_false_iff q _ none).mpr new]
    | setLimit => rfl
    | setOffset => rfl

theorem edit_of_eq_some {q r : Query} {schema : Schema} {e : Edit} (h : q.edit? schema e = some r) :
    q.edit schema e = r := by
  rw [edit, h, Option.getD_some]

/-- An edit that is declined changes nothing. -/
theorem edit_of_eq_none {q : Query} {schema : Schema} {e : Edit} (h : q.edit? schema e = none) :
    q.edit schema e = q := by
  rw [edit, h, Option.getD_none]

/-! ## Sessions -/

theorem editAll_cons (q : Query) (schema : Schema) (e : Edit) (edits : List Edit) :
    q.editAll schema (e :: edits) = (q.edit schema e).editAll schema edits := rfl

/-- **What every step keeps holds all through a session.** A step may count on `Allowed`, which is
asked of every query on the way. -/
theorem invariant_editAll (schema : Schema) (Invariant Allowed : Query → Prop)
    (keeps : ∀ q r e, Allowed q → Step schema q e r → Invariant q → Invariant r)
    {q : Query} {edits : List Edit} (start : Invariant q)
    (allowed : ∀ n, Allowed (q.editAll schema (edits.take n))) :
    Invariant (q.editAll schema edits) := by
  induction edits generalizing q with
  | nil => exact start
  | cons e edits ih =>
      rw [editAll_cons]
      refine ih ?_ fun n => allowed (n + 1)
      cases h : q.edit? schema e with
      | none =>
          rw [edit_of_eq_none h]
          exact start
      | some r =>
          rw [edit_of_eq_some h]
          exact keeps q r e (allowed 0) (edit?_eq_some_iff.mp h) start

end Query

end QueryDesk
