import QueryDesk.Proofs.Query.Executable

/-! # Taking a table out

Taking a table out takes everything out that refers to it, and nothing else (`leftWithout_withoutTable`). So it
undoes whatever was built on the table: `BuiltOn` says that a query is another one with a table and entries that
refer to it, steps that add such entries keep it (`BuiltOn.step`, `BuiltOn.editAll`), and without the table the
other query is left. What this takes is that nothing referred to the table before it was there, which is where
fresh ids come in (`builtOn_addTable`).
-/

set_option autoImplicit false

namespace QueryDesk

/-! ## What stays of a list -/

section Lists

variable {α : Type}

/-- **What stays of a list**: the items that are to stay, each as often as before and in the same order, and no
others. -/
structure Keeps [DecidableEq α] (stays : α → Prop) (before after : List α) : Prop where
  inOrder : after.Sublist before
  no_other : ∀ a ∈ after, stays a
  all : ∀ a, stays a → after.count a = before.count a

theorem keeps_filter [DecidableEq α] {stays : α → Prop} {p : α → Bool}
    (hp : ∀ a, p a = true ↔ stays a) (items : List α) : Keeps stays items (items.filter p) where
  inOrder := List.filter_sublist
  no_other a ha := (hp a).mp (List.mem_filter.mp ha).2
  all a ha := List.count_filter ((hp a).mpr ha)

/-- Entries that refer to other ids all stay. -/
theorem filter_ne_eq_self {ref : α → String} {items : List α} {ids : List String} {id : String}
    (h : ∀ a ∈ items, ref a ∈ ids) (new : id ∉ ids) : items.filter (fun a => ref a != id) = items := by
  rw [List.filter_eq_self]
  intro a ha
  rw [bne_iff_ne]
  rintro rfl
  exact new (h a ha)

end Lists

/-- **An edit that builds on a table**: it adds an entry that refers to it. -/
inductive Edit.BuildsOn (tableId : String) : Edit → Prop
  | addColumn (column : String) : BuildsOn tableId (.addColumn tableId column)
  | addFilter {filter : Filter} (on : filter.tableId = tableId) : BuildsOn tableId (.addFilter filter)
  | addSort {sort : SortKey} (on : sort.tableId = tableId) : BuildsOn tableId (.addSort sort)
  | addGrouping {grouping : Grouping} (on : grouping.tableId = tableId) :
      BuildsOn tableId (.addGrouping grouping)
  | addJoin {join : Join} (on : join.fromTableId = tableId ∨ join.toTableId = tableId) :
      BuildsOn tableId (.addJoin join)

namespace Query

variable {schema : Schema} {q r s : Query} {e : Edit} {tableId : String}

/-! ## What is left without a table -/

/-- **A query left without a table**: no table of the id and no entry that refers to it, and everything else as
it was. -/
structure LeftWithout (tableId : String) (q r : Query) : Prop where
  tables : Keeps (fun t => t.id ≠ tableId) q.tables r.tables
  columns : Keeps (fun c => c.tableId ≠ tableId) q.columns r.columns
  filters : Keeps (fun f => f.tableId ≠ tableId) q.filters r.filters
  groupings : Keeps (fun g => g.tableId ≠ tableId) q.groupings r.groupings
  sorts : Keeps (fun s => s.tableId ≠ tableId) q.sorts r.sorts
  joins : Keeps (fun j => j.fromTableId ≠ tableId ∧ j.toTableId ≠ tableId) q.joins r.joins
  limit : r.limit = q.limit
  offset : r.offset = q.offset

theorem leftWithout_withoutTable (q : Query) (tableId : String) :
    LeftWithout tableId q (q.withoutTable tableId) where
  tables := keeps_filter (fun _ => bne_iff_ne) _
  columns := keeps_filter (fun _ => bne_iff_ne) _
  filters := keeps_filter (fun _ => bne_iff_ne) _
  groupings := keeps_filter (fun _ => bne_iff_ne) _
  sorts := keeps_filter (fun _ => bne_iff_ne) _
  joins := keeps_filter (fun _ => by rw [Bool.and_eq_true, bne_iff_ne, bne_iff_ne]) _
  limit := rfl
  offset := rfl

theorem edit_removeTable (h : tableId ∈ q.ids) :
    q.edit schema (.removeTable tableId) = q.withoutTable tableId := by
  have step : Step schema q (.removeTable tableId) (q.withoutTable tableId) :=
    .removeTable (hasTableId_iff_mem_ids.mpr h)
  rw [edit_of_eq_some (edit?_eq_some_iff.mpr step)]

/-- A table that is not there leaves nothing behind. -/
theorem withoutTable_eq_self (refers : q.RefersToTables) (new : tableId ∉ q.ids) :
    q.withoutTable tableId = q := by
  have tables : q.tables.filter (fun t => t.id != tableId) = q.tables :=
    filter_ne_eq_self (fun _ ht => List.mem_map_of_mem ht) new
  have joins : q.joins.filter (fun j => j.fromTableId != tableId && j.toTableId != tableId) = q.joins := by
    rw [← List.filter_filter, filter_ne_eq_self (fun j hj => (refers.joins j hj).2) new,
      filter_ne_eq_self (fun j hj => (refers.joins j hj).1) new]
  rw [withoutTable, tables, joins, filter_ne_eq_self refers.columns new,
    filter_ne_eq_self refers.filters new, filter_ne_eq_self refers.sorts new,
    filter_ne_eq_self refers.groupings new]

/-! ## What is built on a table -/

/-- **A query built on a table** from one without it: the table is there, and without it and all that refers to
it the other query is left. -/
structure BuiltOn (tableId : String) (q r : Query) : Prop where
  there : tableId ∈ r.ids
  rest : r.withoutTable tableId = q

/-- Nothing refers to a table that has only just been added. -/
theorem builtOn_addTable (name : String) (refers : q.RefersToTables) (new : tableId ∉ q.ids) :
    BuiltOn tableId q { q with tables := q.tables ++ [.plain tableId name] } where
  there := by simp [ids, QueryTable.plain]
  rest := by
    calc ({ q with tables := q.tables ++ [.plain tableId name] } : Query).withoutTable tableId
        = q.withoutTable tableId := by simp [withoutTable, QueryTable.plain]
      _ = q := withoutTable_eq_self refers new

/-- **A step that builds on a table** adds nothing that stays without it. -/
theorem BuiltOn.step (h : Step schema r e s) (he : e.BuildsOn tableId) (hr : BuiltOn tableId q r) :
    BuiltOn tableId q s := by
  suffices hs : s.ids = r.ids ∧ s.withoutTable tableId = r.withoutTable tableId from
    ⟨hs.1 ▸ hr.there, hs.2.trans hr.rest⟩
  cases he with
  | addColumn column =>
      cases h
      exact ⟨rfl, by simp [withoutTable, Selection.plain]⟩
  | addFilter on | addSort on | addGrouping on =>
      cases h
      exact ⟨rfl, by simp [withoutTable, on]⟩
  | addJoin on =>
      cases h
      -- one end at the table is enough for a join to go
      exact ⟨rfl, by rcases on with on | on <;> simp [withoutTable, on]⟩

/-- **A run that builds on a table**, with edits that are declined among it. -/
theorem BuiltOn.editAll (schema : Schema) {edits : List Edit} (hedits : ∀ e ∈ edits, e.BuildsOn tableId)
    (hr : BuiltOn tableId q r) : BuiltOn tableId q (r.editAll schema edits) := by
  induction edits generalizing r with
  | nil => exact hr
  | cons e edits ih =>
      rw [List.forall_mem_cons] at hedits
      rw [editAll_cons]
      refine ih hedits.2 ?_
      cases h : r.edit? schema e with
      | none =>
          rw [edit_of_eq_none h]
          exact hr
      | some s =>
          rw [edit_of_eq_some h]
          exact hr.step (edit?_eq_some_iff.mp h) hedits.1

/-! ## The removal -/

/-- **Taking a table out undoes all that was built on it.** If everything refers to a table of the query and the
numbers of the ids have not run out, then a table that is added gets an id of its own, and whatever is built on
it, taking it out gives the query back. In any query, taking out a table that is there leaves no entry that
refers to it and every other one in its order. -/
theorem removal_undoes_building (schema : Schema) :
    (∀ (q r : Query) (name : String), q.RefersToTables → q.NumbersLeft →
      q.edit? schema (.addTable name) = some r →
      q.nextTableId ∉ q.ids ∧ r = { q with tables := q.tables ++ [.plain q.nextTableId name] } ∧
        ∀ edits : List Edit, (∀ e ∈ edits, e.BuildsOn q.nextTableId) →
          (r.editAll schema edits).edit schema (.removeTable q.nextTableId) = q) ∧
    ∀ (q : Query) (tableId : String), tableId ∈ q.ids →
      LeftWithout tableId q (q.edit schema (.removeTable tableId)) := by
  constructor
  · intro q r name refers free h
    have new : q.nextTableId ∉ q.ids := nextTableId_not_mem_ids free
    cases edit?_eq_some_iff.mp h
    refine ⟨new, rfl, fun edits hedits => ?_⟩
    have built := (builtOn_addTable name refers new).editAll schema hedits
    rw [edit_removeTable built.there, built.rest]
  · intro q tableId h
    rw [edit_removeTable h]
    exact leftWithout_withoutTable q tableId

/-- The query that the session of the day ends with. -/
def dailyQuery : Query := empty.editAll shopSchema dailyEdits

/-- What may be built on the customers once they are added to the query of the day; the second join is declined,
since there is one like it already. -/
def customersEdits : List Edit :=
  [.addJoin ⟨"t1", "city", "t2", "city", .left⟩, .addJoin ⟨"t1", "city", "t2", "city", .left⟩,
   .addColumn "t2" "city", .addFilter ⟨"t2", "city", .isNotNull, none⟩, .addGrouping ⟨"t2", "city"⟩,
   .addSort ⟨"t2", "city", .asc⟩]

/-- The customers come and go with all that was built on them; without the orders nothing is left. -/
theorem removal_undoes_customers :
    (dailyQuery.RefersToTables ∧ dailyQuery.NumbersLeft ∧ dailyQuery.nextTableId = "t2" ∧
      ∀ e ∈ customersEdits, e.BuildsOn "t2") ∧
    (∃ r, dailyQuery.edit? shopSchema (.addTable "customers") = some r ∧
      (r.editAll shopSchema customersEdits).joins.length = 1 ∧
      (r.editAll shopSchema customersEdits).edit shopSchema (.removeTable "t2") = dailyQuery) ∧
    LeftWithout "t1" dailyQuery (dailyQuery.edit shopSchema (.removeTable "t1")) := by
  have refers : dailyQuery.RefersToTables := refersToItsTables_iff.mp (by decide)
  have free : dailyQuery.NumbersLeft := by decide
  have hid : dailyQuery.nextTableId = "t2" := by decide
  have hedits : ∀ e ∈ customersEdits, e.BuildsOn "t2" := by
    rw [customersEdits]
    simp only [List.forall_mem_cons]
    exact ⟨.addJoin (Or.inr rfl), .addJoin (Or.inr rfl), .addColumn "city", .addFilter rfl,
      .addGrouping rfl, .addSort rfl, List.forall_mem_nil _⟩
  obtain ⟨hundone, hleft⟩ := removal_undoes_building shopSchema
  have hadded : dailyQuery.edit? shopSchema (.addTable "customers") =
      some (dailyQuery.edit shopSchema (.addTable "customers")) := by decide
  obtain ⟨-, -, hback⟩ := hundone dailyQuery _ "customers" refers free hadded
  rw [hid] at hback
  exact ⟨⟨refers, free, hid, hedits⟩, ⟨_, hadded, by decide, hback customersEdits hedits⟩,
    hleft dailyQuery "t1" (by decide)⟩

end Query

end QueryDesk
