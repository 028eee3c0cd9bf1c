import QueryDesk.Proofs.Query.WellFormed
import QueryDesk.Query.Choice

/-! # What is offered is what is accepted

An editor offers tables, aggregations and columns; whether an edit is accepted is decided by checks of its
own. `accepted_iff_offered` says that the two agree for every schema and every query, whether it was put
together by edits or not. The accepted edits are read off `Step`. Of a column that is offered it is enough
to know that its table has an id of the query, and that it can be chosen exactly if no other entry has it
(`of_mem_choices`).
-/

set_option autoImplicit false

namespace QueryDesk

/-- The column that is offered. -/
def ColumnChoice.columnRef (o : ColumnChoice) : ColumnRef := ⟨o.tableId, o.column⟩

namespace Query

/-! ## The other entries of a list -/

section OtherEntries

variable {α β : Type}

/-- The items at other places than one are the list without the item at that place. -/
theorem map_fst_filter_zipIdx (items : List α) (start index : Nat) :
    ((items.zipIdx start).filter fun entry => entry.2 != start + index).map Prod.fst =
      items.eraseIdx index := by
  induction items generalizing start index with
  | nil => rfl
  | cons a rest ih =>
      rw [List.zipIdx_cons]
      cases index with
      | zero =>
          have hlater : (rest.zipIdx (start + 1)).filter (fun entry => entry.2 != start + 0) =
              rest.zipIdx (start + 1) := by
            rw [List.filter_eq_self]
            intro entry hentry
            have hle : start + 1 ≤ entry.2 := List.le_snd_of_mem_zipIdx hentry
            rw [bne_iff_ne]
            omega
          rw [List.filter_cons_of_neg (by simp), hlater, List.zipIdx_map_fst, List.eraseIdx_cons_zero]
      | succ index =>
          have hhere : (start != start + (index + 1)) = true := by
            rw [bne_iff_ne]
            omega
          rw [List.filter_cons, if_pos hhere, List.map_cons, List.eraseIdx_cons_succ,
            ← ih (start + 1) index, Nat.add_right_comm start 1 index, Nat.add_assoc]

theorem usedColumns_eq_othersThan (columns : List ColumnRef) (editing : Option Nat) :
    usedColumns columns editing = othersThan columns editing := by
  cases editing with
  | none =>
      have hall : columns.zipIdx.filter (fun entry => some entry.2 != none) = columns.zipIdx :=
        List.filter_eq_self.mpr fun _ _ => rfl
      rw [usedColumns, hall, List.zipIdx_map_fst]
      rfl
  | some index =>
      have hplaces := map_fst_filter_zipIdx columns 0 index
      rw [Nat.zero_add] at hplaces
      exact hplaces

theorem othersThan_map (key : α → β) (items : List α) (editing : Option Nat) :
    othersThan (items.map key) editing = (othersThan items editing).map key := by
  cases editing with
  | none => rfl
  | some index => exact List.eraseIdx_map key items index

/-- A column is in use where an entry other than the one that is edited has it. -/
theorem mem_usedColumns_iff {key : α → ColumnRef} {items : List α} {editing : Option Nat}
    {c : ColumnRef} :
    c ∈ usedColumns (items.map key) editing ↔ ∃ a ∈ othersThan items editing, key a = c := by
  rw [usedColumns_eq_othersThan, othersThan_map, List.mem_map]

end OtherEntries

/-! ## What is offered -/

variable {q : Query} {schema : Schema}

/-- **A column that is offered** belongs to a table of the query, and can be chosen unless it is in use. -/
theorem of_mem_columnChoices {used : List ColumnRef} {o : ColumnChoice}
    (h : o ∈ q.columnChoices schema used) :
    q.hasTableId o.tableId = true ∧ (o.selectable = true ↔ o.columnRef ∉ used) := by
  obtain ⟨t, ht, ho⟩ := List.mem_flatMap.mp h
  unfold choicesOf at ho
  split at ho
  · simp at ho
  · next table =>
      obtain ⟨c, -, rfl⟩ := List.mem_map.mp ho
      refine ⟨hasTableId_iff.mpr ⟨t, ht, rfl⟩, ?_⟩
      show (!used.any fun u => u.tableId == t.id && u.column == c.name) = true ↔
        (⟨t.id, c.name⟩ : ColumnRef) ∉ used
      -- a column is told by the id of its table and its name
      have hsame : ∀ u : ColumnRef,
          (u.tableId == t.id && u.column == c.name) = true ↔ u = ⟨t.id, c.name⟩ := by
        rintro ⟨tableId, column⟩
        simp
      rw [Bool.not_eq_true', List.any_eq_false]
      simp only [hsame, List.forall_mem_ne']

/-- A column that is offered for an entry of a list can be chosen unless another entry has it. -/
theorem of_mem_choices {α : Type} {key : α → ColumnRef} {items : List α} {editing : Option Nat}
    {o : ColumnChoice} (h : o ∈ q.columnChoices schema (usedColumns (items.map key) editing)) :
    q.hasTableId o.tableId = true ∧
      (o.selectable = true ↔ ∀ a ∈ othersThan items editing, key a ≠ o.columnRef) := by
  obtain ⟨known, hselectable⟩ := of_mem_columnChoices h
  refine ⟨known, ?_⟩
  rw [hselectable, mem_usedColumns_iff]
  simp only [not_exists, not_and, ne_eq]

/-- A name is offered where the schema has a table of the name and the query has none. -/
theorem exists_mem_availableTables_iff {name : String} :
    (∃ t ∈ q.availableTables schema, t.name = name) ↔
      (schema.table? name).isSome ∧ q.hasTableNamed name = false := by
  rw [Schema.table?, List.find?_isSome]
  constructor
  · rintro ⟨t, ht, rfl⟩
    obtain ⟨hmem, hnew⟩ := List.mem_filter.mp ht
    exact ⟨⟨t, hmem, beq_self_eq_true t.name⟩, by simpa using hnew⟩
  · rintro ⟨⟨t, hmem, hname⟩, hnew⟩
    have hname : t.name = name := beq_iff_eq.mp hname
    subst hname
    exact ⟨t, List.mem_filter.mpr ⟨hmem, by rw [hnew]; rfl⟩, rfl⟩

/-! ## What is accepted -/

/-- An edit is accepted where there is a step. -/
theorem isSome_edit?_iff {e : Edit} : (q.edit? schema e).isSome ↔ ∃ r, Step schema q e r := by
  rw [Option.isSome_iff_exists]
  exact exists_congr fun r => edit?_eq_some_iff

theorem addTable_accepted_iff {name : String} :
    (q.edit? schema (.addTable name)).isSome ↔
      (schema.table? name).isSome ∧ q.hasTableNamed name = false := by
  rw [isSome_edit?_iff]
  constructor
  · rintro ⟨r, h⟩
    cases h with
    | addTable known new => exact ⟨known, new⟩
  · rintro ⟨known, new⟩
    exact ⟨_, .addTable known new⟩

theorem setAggregation_accepted_iff {index : Nat} {aggregation : Aggregation} :
    (q.edit? schema (.setAggregation index aggregation)).isSome ↔
      ∃ s, q.columns[index]? = some s ∧ aggregation ∈ (q.categoryOf schema s).aggregations := by
  rw [isSome_edit?_iff]
  constructor
  · rintro ⟨r, h⟩
    cases h with
    | setAggregation there legal => exact ⟨_, there, legal⟩
  · rintro ⟨s, there, legal⟩
    exact ⟨_, .setAggregation there legal⟩

theorem addSort_accepted_iff {sort : SortKey} :
    (q.edit? schema (.addSort sort)).isSome ↔
      q.hasTableId sort.tableId = true ∧ ∀ s ∈ q.sorts, s.columnRef ≠ sort.columnRef := by
  rw [isSome_edit?_iff]
  constructor
  · rintro ⟨r, h⟩
    cases h with
    | addSort known new => exact ⟨known, new⟩
  · rintro ⟨known, new⟩
    exact ⟨_, .addSort known new⟩

theorem updateSort_accepted_iff {index : Nat} {sort : SortKey} (there : index < q.sorts.length) :
    (q.edit? schema (.updateSort index sort)).isSome ↔
      q.hasTableId sort.tableId = true ∧
        ∀ s ∈ q.sorts.eraseIdx index, s.columnRef ≠ sort.columnRef := by
  rw [isSome_edit?_iff]
  constructor
  · rintro ⟨r, h⟩
    cases h with
    | updateSort _ known new => exact ⟨known, new⟩
  · rintro ⟨known, new⟩
    exact ⟨_, .updateSort there known new⟩

theorem addGrouping_accepted_iff {grouping : Grouping} :
    (q.edit? schema (.addGrouping grouping)).isSome ↔
      q.hasTableId grouping.tableId = true ∧ ∀ g ∈ q.groupings, g.columnRef ≠ grouping.columnRef := by
  rw [isSome_edit?_iff]
  constructor
  · rintro ⟨r, h⟩
    cases h with
    | addGrouping known new => exact ⟨known, new⟩
  · rintro ⟨known, new⟩
    exact ⟨_, .addGrouping known new⟩

/-! ## Both agree -/

/-- **What is offered is what is accepted.** A table is added exactly if a table of its name is offered,
an aggregation is set exactly if the output column is there and is offered it, and of the columns that are
offered for an entry of the order or for a new entry of the grouping exactly those are accepted that can be
chosen. Nothing is asked of the query: it may hold one id or one name twice, or refer to no table. -/
theorem accepted_iff_offered (schema : Schema) (q : Query) :
    (∀ name, (q.edit? schema (.addTable name)).isSome ↔
      ∃ t ∈ q.availableTables schema, t.name = name) ∧
    (∀ index aggregation, (q.edit? schema (.setAggregation index aggregation)).isSome ↔
      ∃ offered, q.aggregations? schema index = some offered ∧ aggregation ∈ offered) ∧
    (∀ o ∈ q.sortChoices schema none, ∀ direction,
      (q.edit? schema (.addSort ⟨o.tableId, o.column, direction⟩)).isSome ↔ o.selectable) ∧
    (∀ index < q.sorts.length, ∀ o ∈ q.sortChoices schema (some index), ∀ direction,
      (q.edit? schema (.updateSort index ⟨o.tableId, o.column, direction⟩)).isSome ↔ o.selectable) ∧
    (∀ o ∈ q.groupingChoices schema none,
      (q.edit? schema (.addGrouping ⟨o.tableId, o.column⟩)).isSome ↔ o.selectable) := by
  refine ⟨?_, ?_, ?_, ?_, ?_⟩
  · intro name
    rw [addTable_accepted_iff, exists_mem_availableTables_iff]
  · intro index aggregation
    rw [setAggregation_accepted_iff]
    simp only [aggregations?, Option.map_eq_some_iff, exists_exists_and_eq_and]
  · intro o ho direction
    obtain ⟨known, hselectable⟩ := of_mem_choices ho
    rw [addSort_accepted_iff, hselectable]
    exact and_iff_right known
  · intro index there o ho direction
    obtain ⟨known, hselectable⟩ := of_mem_choices ho
    rw [updateSort_accepted_iff there, hselectable]
    exact and_iff_right known
  · intro o ho
    obtain ⟨known, hselectable⟩ := of_mem_choices ho
    rw [addGrouping_accepted_iff, hselectable]
    exact and_iff_right known

/-- A query in which two tables have one id and two entries of the order have one column. -/
def crowded : Query := { empty with
  tables := [.plain "t1" "orders", .plain "t1" "customers"]
  columns := [.plain "t1" "day"]
  groupings := [⟨"t1", "city"⟩]
  sorts := [⟨"t1", "day", .asc⟩, ⟨"t1", "day", .desc⟩] }

/-- An entry cannot keep its column while another entry has the same; columns not in use are accepted. -/
theorem accepted_crowded :
    (⟨"t1", "orders", "day", .date, false⟩ ∈ crowded.sortChoices shopSchema (some 0) ∧
      ¬(crowded.edit? shopSchema (.updateSort 0 ⟨"t1", "day", .desc⟩)).isSome) ∧
    (⟨"t1", "orders", "amount", .numeric, true⟩ ∈ crowded.sortChoices shopSchema none ∧
      (crowded.edit? shopSchema (.addSort ⟨"t1", "amount", .asc⟩)).isSome) ∧
    (⟨"t1", "customers", "city", .categorical, false⟩ ∈ crowded.groupingChoices shopSchema none ∧
      ¬(crowded.edit? shopSchema (.addGrouping ⟨"t1", "city"⟩)).isSome) := by
  obtain ⟨-, -, haddSort, hupdateSort, haddGrouping⟩ := accepted_iff_offered shopSchema crowded
  have hday : ⟨"t1", "orders", "day", .date, false⟩ ∈ crowded.sortChoices shopSchema (some 0) := by decide
  have hamount : ⟨"t1", "orders", "amount", .numeric, true⟩ ∈ crowded.sortChoices shopSchema none := by
    decide
  have hcity : ⟨"t1", "customers", "city", .categorical, false⟩ ∈
      crowded.groupingChoices shopSchema none := by decide
  refine ⟨⟨hday, ?_⟩, ⟨hamount, ?_⟩, hcity, ?_⟩
  · rw [hupdateSort 0 (by decide) _ hday .desc]
    exact Bool.false_ne_true
  · exact (haddSort _ hamount .asc).mpr rfl
  · rw [haddGrouping _ hcity]
    exact Bool.false_ne_true

end Query

end QueryDesk
