import QueryDesk.Proofs.Query.Step
import QueryDesk.Proofs.Query.TableId
import QueryDesk.Proofs.Lists

/-! # Well-formed queries

What holds of every query that is put together by edits: its tables are told apart by their ids and by
their names and are tables of the schema, everything else refers to one of them, and no order, grouping
or join is entered twice. `wellFormed_editAll` says that sessions keep this, which is one statement
for each of the three parts of `WellFormed`: `TablesSound.step`, `RefersToTables.step` and
`EntriesDistinct.step`.
-/

set_option autoImplicit false

namespace QueryDesk

namespace Query

/-! ## The invariant -/

/-- The ids of the tables. -/
def ids (q : Query) : List String := q.tables.map QueryTable.id

theorem hasTableId_iff_mem_ids {q : Query} {id : String} : q.hasTableId id = true ↔ id ∈ q.ids := by
  rw [hasTableId_iff, ids, List.mem_map]

/-- The next id is not among the ids in use. -/
theorem nextTableId_not_mem_ids {q : Query} (h : q.NumbersLeft) : q.nextTableId ∉ q.ids := by
  intro hmem
  obtain ⟨t, ht, hid⟩ := List.mem_map.mp hmem
  exact nextTableId_fresh h t ht hid

/-- **The tables are told apart** by id and by name, and are tables of the schema. -/
structure TablesSound (schema : Schema) (q : Query) : Prop where
  ids : q.ids.Nodup
  names : (q.tables.map QueryTable.name).Nodup
  known : ∀ t ∈ q.tables, ∃ table ∈ schema.tables, table.name = t.name

/-- **Everything refers to a table of the query.** -/
structure RefersToTables (q : Query) : Prop where
  columns : ∀ c ∈ q.columns, c.tableId ∈ q.ids
  filters : ∀ f ∈ q.filters, f.tableId ∈ q.ids
  sorts : ∀ s ∈ q.sorts, s.tableId ∈ q.ids
  groupings : ∀ g ∈ q.groupings, g.tableId ∈ q.ids
  joins : ∀ j ∈ q.joins, j.fromTableId ∈ q.ids ∧ j.toTableId ∈ q.ids

/-- **Nothing is entered twice**: a column into the order or the grouping, or a join. -/
structure EntriesDistinct (q : Query) : Prop where
  sorts : (q.sorts.map SortKey.columnRef).Nodup
  groupings : (q.groupings.map Grouping.columnRef).Nodup
  joins : q.joins.Nodup

/-- **A query as edits make it.** -/
structure WellFormed (schema : Schema) (q : Query) : Prop where
  tables : q.TablesSound schema
  refers : q.RefersToTables
  entries : q.EntriesDistinct

/-! ## Steps -/

theorem ids_nodup_append {q : Query} {t : QueryTable} (h : q.ids.Nodup)
    (new : ∀ u ∈ q.tables, u.id ≠ t.id) : ({ q with tables := q.tables ++ [t] } : Query).ids.Nodup :=
  nodup_map_append_singleton h new

theorem mem_ids_append {q : Query} {t : QueryTable} {id : String} (h : id ∈ q.ids) :
    id ∈ ({ q with tables := q.tables ++ [t] } : Query).ids := by
  show id ∈ (q.tables ++ [t]).map QueryTable.id
  rw [List.map_append]
  exact List.mem_append_left _ h

/-- Of the ids, removing a table takes its own and no other. -/
theorem mem_ids_withoutTable {q : Query} {tableId id : String} :
    id ∈ (q.withoutTable tableId).ids ↔ id ∈ q.ids ∧ id ≠ tableId := by
  simp only [ids, withoutTable, List.mem_map, List.mem_filter, bne_iff_ne]
  constructor
  · rintro ⟨t, ⟨ht, hne⟩, rfl⟩
    exact ⟨⟨t, ht, rfl⟩, hne⟩
  · rintro ⟨⟨t, ht, rfl⟩, hne⟩
    exact ⟨t, ⟨ht, hne⟩, rfl⟩

/-- What is kept beside a removed table refers to one of the others. -/
theorem forall_mem_filter_ids {α : Type} {ref : α → String} {q : Query} {tableId : String}
    {items : List α} (h : ∀ a ∈ items, ref a ∈ q.ids) :
    ∀ a ∈ items.filter (fun a => ref a != tableId), ref a ∈ (q.withoutTable tableId).ids := by
  intro a ha
  obtain ⟨hmem, hne⟩ := List.mem_filter.mp ha
  exact mem_ids_withoutTable.mpr ⟨h a hmem, bne_iff_ne.mp hne⟩

theorem TablesSound.step {schema : Schema} {q r : Query} {e : Edit} (h : Step schema q e r)
    (free : q.NumbersLeft) (hq : q.TablesSound schema) : r.TablesSound schema := by
  cases h with
  | @addTable name known new =>
      have hnames := hasTableNamed_eq_false_iff.mp new
      obtain ⟨table, hmem, hname⟩ := List.find?_isSome.mp known
      exact {
        ids := ids_nodup_append hq.ids (nextTableId_fresh free)
        names := nodup_map_append_singleton hq.names hnames
        known := forall_mem_append_singleton hq.known ⟨table, hmem, beq_iff_eq.mp hname⟩ }
  | removeTable =>
      exact {
        ids := nodup_map_of_sublist hq.ids List.filter_sublist
        names := nodup_map_of_sublist hq.names List.filter_sublist
        known := fun t ht => hq.known t (List.mem_of_mem_filter ht) }
  -- no other edit changes the tables
  | _ => exact ⟨hq.ids, hq.names, hq.known⟩

theorem RefersToTables.step {schema : Schema} {q r : Query} {e : Edit} (h : Step schema q e r)
    (hq : q.RefersToTables) : r.RefersToTables := by
  cases h with
  | addTable =>
      exact {
        columns := fun c hc => mem_ids_append (hq.columns c hc)
        filters := fun f hf => mem_ids_append (hq.filters f hf)
        sorts := fun s hs => mem_ids_append (hq.sorts s hs)
        groupings := fun g hg => mem_ids_append (hq.groupings g hg)
        joins := fun j hj => ⟨mem_ids_append (hq.joins j hj).1, mem_ids_append (hq.joins j hj).2⟩ }
  | @removeTable tableId _ =>
      -- a join is kept only if neither of its ends is at the removed table
      have joins : ∀ j ∈ (q.withoutTable tableId).joins, j.fromTableId ∈ (q.withoutTable tableId).ids ∧
          j.toTableId ∈ (q.withoutTable tableId).ids := by
        intro j hj
        obtain ⟨hmem, hne⟩ := List.mem_filter.mp hj
        rw [Bool.and_eq_true, bne_iff_ne, bne_iff_ne] at hne
        exact ⟨mem_ids_withoutTable.mpr ⟨(hq.joins j hmem).1, hne.1⟩,
          mem_ids_withoutTable.mpr ⟨(hq.joins j hmem).2, hne.2⟩⟩
      exact {
        columns := forall_mem_filter_ids hq.columns
        filters := forall_mem_filter_ids hq.filters
        sorts := forall_mem_filter_ids hq.sorts
        groupings := forall_mem_filter_ids hq.groupings
        joins := joins }
  | addJoin source target new =>
      exact { hq with
        joins := forall_mem_append_singleton hq.joins
          ⟨hasTableId_iff_mem_ids.mp source, hasTableId_iff_mem_ids.mp target⟩ }
  | removeJoin => exact { hq with joins := forall_mem_eraseIdx hq.joins }
  | addColumn known =>
      exact { hq with
        columns := forall_mem_append_singleton hq.columns (hasTableId_iff_mem_ids.mp known) }
  | setColumn there | setAggregation there | setInterval there | setLabel there =>
      have known := hq.columns _ (List.mem_of_getElem? there)
      exact { hq with columns := forall_mem_set hq.columns known }
  | removeColumn => exact { hq with columns := forall_mem_eraseIdx hq.columns }
  | moveColumn moved =>
      exact { hq with columns := fun c hc => hq.columns c ((moveItem?_perm moved).mem_iff.mp hc) }
  | addFilter known =>
      exact { hq with
        filters := forall_mem_append_singleton hq.filters (hasTableId_iff_mem_ids.mp known) }
  | updateFilter there known =>
      exact { hq with filters := forall_mem_set hq.filters (hasTableId_iff_mem_ids.mp known) }
  | removeFilter => exact { hq with filters := forall_mem_eraseIdx hq.filters }
  | addSort known =>
      exact { hq with
        sorts := forall_mem_append_singleton hq.sorts (hasTableId_iff_mem_ids.mp known) }
  | updateSort there known =>
      exact { hq with sorts := forall_mem_set hq.sorts (hasTableId_iff_mem_ids.mp known) }
  | removeSort => exact { hq with sorts := forall_mem_eraseIdx hq.sorts }
  | addGrouping known =>
      exact { hq with
        groupings := forall_mem_append_singleton hq.groupings (hasTableId_iff_mem_ids.mp known) }
  | removeGrouping => exact { hq with groupings := forall_mem_eraseIdx hq.groupings }
  | setLimit | setOffset => exact { hq with }

theorem EntriesDistinct.step {schema : Schema} {q r : Query} {e : Edit} (h : Step schema q e r)
    (hq : q.EntriesDistinct) : r.EntriesDistinct := by
  cases h with
  | removeTable =>
      exact {
        sorts := nodup_map_of_sublist hq.sorts List.filter_sublist
        groupings := nodup_map_of_sublist hq.groupings List.filter_sublist
        joins := List.filter_sublist.nodup hq.joins }
  | @addJoin join _ _ new =>
      have joins : (q.joins ++ [join]).Nodup := by
        refine List.nodup_append.mpr ⟨hq.joins, by simp, ?_⟩
        rintro j hj _ hmem rfl
        exact new (List.mem_singleton.mp hmem ▸ hj)
      exact { hq with joins }
  | removeJoin => exact { hq with joins := (List.eraseIdx_sublist _ _).nodup hq.joins }
  | addSort _ new => exact { hq with sorts := nodup_map_append_singleton hq.sorts new }
  -- the entry that is replaced need not differ from the new one
  | updateSort _ _ new => exact { hq with sorts := nodup_map_set hq.sorts new }
  | removeSort =>
      exact { hq with sorts := nodup_map_of_sublist hq.sorts (List.eraseIdx_sublist _ _) }
  | addGrouping _ new => exact { hq with groupings := nodup_map_append_singleton hq.groupings new }
  | removeGrouping =>
      exact { hq with groupings := nodup_map_of_sublist hq.groupings (List.eraseIdx_sublist _ _) }
  -- no other edit changes the joins, the order or the grouping
  | _ => exact ⟨hq.sorts, hq.groupings, hq.joins⟩

theorem WellFormed.step {schema : Schema} {q r : Query} {e : Edit} (h : Step schema q e r)
    (free : q.NumbersLeft) (hq : q.WellFormed schema) : r.WellFormed schema where
  tables := hq.tables.step h free
  refers := hq.refers.step h
  entries := hq.entries.step h

/-! ## Sessions -/

theorem wellFormed_empty (schema : Schema) : empty.WellFormed schema where
  tables := ⟨List.nodup_nil, List.nodup_nil, List.forall_mem_nil _⟩
  refers := ⟨List.forall_mem_nil _, List.forall_mem_nil _, List.forall_mem_nil _,
    List.forall_mem_nil _, List.forall_mem_nil _⟩
  entries := ⟨List.nodup_nil, List.nodup_nil, List.nodup_nil⟩

theorem WellFormed.editAll {schema : Schema} {q : Query} {edits : List Edit}
    (hq : q.WellFormed schema) (free : ∀ n, (q.editAll schema (edits.take n)).NumbersLeft) :
    (q.editAll schema edits).WellFormed schema :=
  invariant_editAll schema (WellFormed schema) NumbersLeft (fun _ _ _ free h hq => hq.step h free)
    hq free

/-- A schema of two tables. -/
def shopSchema : Schema where
  tables := [
    ⟨"orders", "public", [.ofType "amount" "numeric", .ofType "day" "date"], none⟩,
    ⟨"customers", "public", [.ofType "city" "text"], none⟩]
  relationships := []

/-- A session that takes a table out, with all that refers to it, and brings its id in again. -/
def shopEdits : List Edit :=
  [.addTable "orders", .addColumn "t1" "amount", .setAggregation 0 .sum, .addColumn "t1" "day",
   .setInterval 1 (some .month), .addTable "customers", .addJoin ⟨"t1", "city", "t2", "city", .left⟩,
   .addSort ⟨"t1", "day", .asc⟩, .addSort ⟨"t2", "city", .asc⟩, .updateSort 0 ⟨"t1", "day", .desc⟩,
   .removeTable "t2", .addTable "customers", .setColumn 0 "day"]

theorem numbersLeft_shop (n : Nat) : (empty.editAll shopSchema (shopEdits.take n)).NumbersLeft := by
  have hsome : ∀ m ≤ 13, (empty.editAll shopSchema (shopEdits.take m)).NumbersLeft := by decide
  rcases Nat.le_total n 13 with h | h
  · exact hsome n h
  · rw [List.take_of_length_le h]
    exact hsome 13 (Nat.le_refl 13)

/-- **Edits keep queries well formed.** The query with nothing in it is well formed, and so is every
query that edits lead to from a well-formed one, as long as the numbers of the table ids do not run
out on the way. -/
theorem wellFormed_editAll (schema : Schema) :
    empty.WellFormed schema ∧
      ∀ (q : Query) (edits : List Edit), q.WellFormed schema →
        (∀ n, (q.editAll schema (edits.take n)).NumbersLeft) →
        (q.editAll schema edits).WellFormed schema :=
  ⟨wellFormed_empty schema, fun _ _ hq free => hq.editAll free⟩

theorem wellFormed_shop :
    empty.WellFormed shopSchema ∧
      (∀ n, (empty.editAll shopSchema (shopEdits.take n)).NumbersLeft) ∧
      (empty.editAll shopSchema shopEdits).WellFormed shopSchema ∧
      (empty.editAll shopSchema shopEdits).ids = ["t1", "t2"] ∧
      (empty.editAll shopSchema shopEdits).sorts = [⟨"t1", "day", .desc⟩] :=
  ⟨(wellFormed_editAll shopSchema).1, numbersLeft_shop,
    (wellFormed_editAll shopSchema).2 empty shopEdits (wellFormed_empty shopSchema) numbersLeft_shop,
    by decide, by decide⟩

end Query

end QueryDesk
