import QueryDesk.Proofs.Query.WellFormed

/-! # Output columns and their categories

The aggregation and the interval of an output column always suit the category of its column
(`typed_editAll`), although the category is not kept anywhere: it is looked up through the tables of the
query and the schema. So the tables may only change in ways that leave the look-up of the tables in use
alone, which is where `RefersToTables` comes in.
-/

set_option autoImplicit false

namespace QueryDesk

/-- **What was set for an output column suits a category**: the aggregation is one of those the
category can have, and only dates are cut down to an interval. -/
structure Selection.Suits (s : Selection) (c : Category) : Prop where
  aggregation : s.aggregation ∈ c.aggregations
  interval : s.interval.isSome → c = .date

/-- Every category lets a value be taken as it is. -/
theorem Category.raw_mem_aggregations (c : Category) : .raw ∈ c.aggregations := by
  cases c <;> decide

namespace Query

/-- **Every output column suits the category of its column.** -/
def Typed (schema : Schema) (q : Query) : Prop := ∀ c ∈ q.columns, c.Suits (q.categoryOf schema c)

/-! ## The tables in use -/

/-- A category depends on the table of the id alone. -/
theorem categoryOf_congr {q r : Query} {schema : Schema} {s : Selection}
    (h : r.table? s.tableId = q.table? s.tableId) : r.categoryOf schema s = q.categoryOf schema s := by
  rw [categoryOf, categoryOf, category, category, h]

theorem table?_append {q : Query} {t : QueryTable} {id : String} (h : id ∈ q.ids) :
    ({ q with tables := q.tables ++ [t] } : Query).table? id = q.table? id := by
  obtain ⟨u, hu, rfl⟩ := List.mem_map.mp h
  have hsome : (q.tables.find? fun v => v.id == u.id).isSome :=
    List.find?_isSome.mpr ⟨u, hu, beq_self_eq_true u.id⟩
  show (q.tables ++ [t]).find? _ = q.tables.find? _
  rw [List.find?_append, Option.or_of_isSome hsome]

theorem table?_withoutTable {q : Query} {tableId id : String} (h : id ≠ tableId) :
    (q.withoutTable tableId).table? id = q.table? id := by
  show (q.tables.filter fun t => t.id != tableId).find? _ = q.tables.find? _
  rw [List.find?_filter]
  congr 1
  funext t
  by_cases ht : t.id = id
  · simp [ht, h]
  · simp [ht]

/-! ## Steps -/

theorem suits_plain (c : Category) (tableId column : String) :
    (Selection.plain tableId column).Suits c where
  aggregation := c.raw_mem_aggregations
  interval := by simp [Selection.plain]

/-- A column that is picked anew loses what the new column cannot have. -/
theorem suits_reselect (q : Query) (schema : Schema) (s : Selection) (column : String) :
    (q.reselect schema s column).Suits (q.categoryOf schema (q.reselect schema s column)) := by
  set c := q.category schema s.tableId column with hc
  show (q.reselect schema s column).Suits c
  constructor
  · show (if c.allows s.aggregation then s.aggregation else .raw) ∈ c.aggregations
    split
    · next h => exact Category.allows_iff.mp h
    · exact c.raw_mem_aggregations
  · show (if c.isTruncatable then s.interval else none).isSome → c = .date
    split
    · next h => exact fun _ => Category.isTruncatable_iff.mp h
    · simp

theorem Typed.step {schema : Schema} {q r : Query} {e : Edit} (h : Step schema q e r)
    (refers : q.RefersToTables) (hq : q.Typed schema) : r.Typed schema := by
  cases h with
  | addTable =>
      -- a table that is added comes last, so ids in use are found where they were
      intro c hc
      rw [categoryOf_congr (table?_append (refers.columns c hc))]
      exact hq c hc
  | removeTable =>
      -- the output columns that are left do not look the removed table up
      intro c hc
      obtain ⟨hmem, hne⟩ := List.mem_filter.mp hc
      rw [categoryOf_congr (table?_withoutTable (bne_iff_ne.mp hne))]
      exact hq c hmem
  | addColumn => exact forall_mem_append_singleton hq (suits_plain _ _ _)
  | setColumn => exact forall_mem_set hq (suits_reselect q schema _ _)
  | removeColumn => exact forall_mem_eraseIdx hq
  | moveColumn moved => exact fun c hc => hq c ((moveItem?_perm moved).mem_iff.mp hc)
  | setAggregation there legal =>
      have suits := hq _ (List.mem_of_getElem? there)
      exact forall_mem_set hq ⟨legal, suits.interval⟩
  | setInterval there legal =>
      have suits := hq _ (List.mem_of_getElem? there)
      exact forall_mem_set hq ⟨suits.aggregation, legal⟩
  | setLabel there =>
      have suits := hq _ (List.mem_of_getElem? there)
      exact forall_mem_set hq ⟨suits.aggregation, suits.interval⟩
  -- no other edit changes the tables or the output columns
  | _ => exact hq

/-! ## Sessions -/

/-- What carries the typing along: the look-up of a category needs the table to be there. -/
theorem typed_of_refers_editAll {schema : Schema} {q : Query} {edits : List Edit}
    (refers : q.RefersToTables) (hq : q.Typed schema) :
    (q.editAll schema edits).RefersToTables ∧ (q.editAll schema edits).Typed schema :=
  invariant_editAll schema (fun q => q.RefersToTables ∧ q.Typed schema) (fun _ => True)
    (fun _ _ _ _ h hq => ⟨hq.1.step h, hq.2.step h hq.1⟩) ⟨refers, hq⟩ fun _ => trivial

/-- **Edits keep the settings of output columns legal.** Whatever edits were made from nothing, the
aggregation of every output column is one that the category of its column can have, and only a date is
cut down to an interval. Ids that are in use twice do no harm, since the first table of an id stays
the first. -/
theorem typed_editAll (schema : Schema) (edits : List Edit) :
    ∀ c ∈ (empty.editAll schema edits).columns,
      c.aggregation ∈ ((empty.editAll schema edits).category schema c.tableId c.column).aggregations ∧
      (c.interval.isSome →
        (empty.editAll schema edits).category schema c.tableId c.column = .date) := by
  intro c hc
  have start : empty.Typed schema := List.forall_mem_nil _
  have suits := (typed_of_refers_editAll (wellFormed_empty schema).refers start).2 c hc
  exact ⟨suits.aggregation, suits.interval⟩

/-- After a session the sum that dates cannot have is taken back, and the month of a date is kept. -/
theorem typed_shop :
    ⟨"t1", "day", .raw, none, some .month⟩ ∈ (empty.editAll shopSchema shopEdits).columns ∧
      .raw ∈ ((empty.editAll shopSchema shopEdits).category shopSchema "t1" "day").aggregations ∧
      (empty.editAll shopSchema shopEdits).category shopSchema "t1" "day" = .date := by
  have hmem : ⟨"t1", "day", .raw, none, some .month⟩ ∈
      (empty.editAll shopSchema shopEdits).columns := by decide
  have suits := typed_editAll shopSchema shopEdits _ hmem
  exact ⟨hmem, suits.1, suits.2 rfl⟩

end Query

end QueryDesk
