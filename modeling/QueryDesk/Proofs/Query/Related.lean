import QueryDesk.Proofs.Query.WellFormed
import QueryDesk.Query.Choice
import Mathlib.Data.List.Induction

/-! # Tables one relationship away

`Query.LeadsTo` says where a relationship leads: exactly one of its ends is in the query, and the table is at the
other end. What is suggested is, for each table that is led to, the first relationship that leads there, in
the order of the relationships (`FirstPerTarget`), and of these the first three. A suggestion of a table of the
schema can be taken up: the table is added, and the join that the relationship gives is accepted for it
(`bringsIn_of_leadsTo`). That the join is a new one follows from the fresh id, to which no join refers yet.
-/

set_option autoImplicit false

namespace QueryDesk

namespace Query

variable {q : Query} {schema : Schema}

/-! ## Where a relationship leads -/

/-- The names of the tables. -/
def names (q : Query) : List String := q.tables.map QueryTable.name

theorem hasTableNamed_eq_decide (q : Query) (name : String) :
    q.hasTableNamed name = decide (name ∈ q.names) := by
  rw [Bool.eq_iff_iff, decide_eq_true_iff, hasTableNamed, List.any_eq_true, names, List.mem_map]
  simp only [beq_iff_eq]

/-- **Where a relationship leads**: exactly one of its ends is in the query, and the table is at the other. -/
def LeadsTo (q : Query) (table : String) (r : Relationship) : Prop :=
  (r.fromTable ∈ q.names ∧ r.toTable ∉ q.names ∧ r.toTable = table) ∨
    (r.toTable ∈ q.names ∧ r.fromTable ∉ q.names ∧ r.fromTable = table)

instance (q : Query) (table : String) : DecidablePred (q.LeadsTo table) :=
  fun _ => inferInstanceAs (Decidable (_ ∨ _))

theorem LeadsTo.not_mem {table : String} {r : Relationship} (h : q.LeadsTo table r) : table ∉ q.names := by
  rcases h with ⟨-, hne, rfl⟩ | ⟨-, hne, rfl⟩ <;> exact hne

theorem LeadsTo.ends_ne {table : String} {r : Relationship} (h : q.LeadsTo table r) :
    r.fromTable ≠ r.toTable := by
  intro heq
  rcases h with ⟨hmem, hne, -⟩ | ⟨hmem, hne, -⟩
  · exact hne (heq ▸ hmem)
  · exact hne (heq ▸ hmem)

/-- A relationship leads to one table at most. -/
theorem LeadsTo.unique {table table' : String} {r : Relationship} (h : q.LeadsTo table r)
    (h' : q.LeadsTo table' r) : table = table' := by
  rcases h with ⟨hmem, hne, rfl⟩ | ⟨hmem, hne, rfl⟩ <;>
    rcases h' with ⟨hmem', hne', rfl⟩ | ⟨hmem', hne', rfl⟩
  · rfl
  · exact absurd hmem' hne
  · exact absurd hmem' hne
  · rfl

theorem otherEnd?_eq_some_iff {r : Relationship} {s : RelatedTable} :
    q.otherEnd? r = some s ↔ s.relationship = r ∧ q.LeadsTo s.table r := by
  obtain ⟨table, relationship⟩ := s
  simp only [otherEnd?, hasTableNamed_eq_decide, LeadsTo]
  by_cases hfrom : r.fromTable ∈ q.names <;> by_cases hto : r.toTable ∈ q.names <;>
    simp [hfrom, hto, and_comm, eq_comm]

/-! ## The first relationship for each table -/

/-- The place of the first relationship that leads to a table. -/
def firstPlace (q : Query) (relationships : List Relationship) (table : String) : Nat :=
  relationships.findIdx fun r => q.LeadsTo table r

/-- **For each table that is led to, the first relationship that leads there**, in the order of the
relationships. -/
structure FirstPerTarget (q : Query) (relationships : List Relationship) (all : List RelatedTable) : Prop where
  first : ∀ s ∈ all, (relationships.find? fun r => q.LeadsTo s.table r) = some s.relationship
  complete : ∀ r ∈ relationships, ∀ table, q.LeadsTo table r → ∃ s ∈ all, s.table = table
  inOrder : all.Pairwise fun s t =>
    q.firstPlace relationships s.table < q.firstPlace relationships t.table

section FirstPerTarget

variable {relationships : List Relationship} {all others : List RelatedTable} {s : RelatedTable}

theorem FirstPerTarget.mem (h : q.FirstPerTarget relationships all) (hs : s ∈ all) :
    s.relationship ∈ relationships :=
  List.mem_of_find?_eq_some (h.first s hs)

theorem FirstPerTarget.leadsTo (h : q.FirstPerTarget relationships all) (hs : s ∈ all) :
    q.LeadsTo s.table s.relationship := by
  simpa using List.find?_some (h.first s hs)

theorem FirstPerTarget.subset (h : q.FirstPerTarget relationships all)
    (h' : q.FirstPerTarget relationships others) (hs : s ∈ all) : s ∈ others := by
  obtain ⟨t, ht, htable⟩ := h'.complete _ (h.mem hs) _ (h.leadsTo hs)
  have hfirst := h'.first t ht
  rw [htable, h.first s hs, Option.some.injEq] at hfirst
  obtain ⟨table, relationship⟩ := s
  obtain ⟨table', relationship'⟩ := t
  cases htable
  cases hfirst
  exact ht

/-- There is only one such list. -/
theorem FirstPerTarget.unique (h : q.FirstPerTarget relationships all)
    (h' : q.FirstPerTarget relationships others) : all = others :=
  eq_of_pairwise_of_mem_iff (fun _ _ => Nat.lt_asymm) h.inOrder h'.inOrder
    fun _ => ⟨h.subset h', h'.subset h⟩

theorem firstPlace_lt {table : String} {r : Relationship} (hmem : r ∈ relationships)
    (h : q.LeadsTo table r) : q.firstPlace relationships table < relationships.length :=
  List.findIdx_lt_length_of_exists ⟨r, hmem, decide_eq_true h⟩

/-- The first place stays when relationships are added behind it. -/
theorem firstPlace_append {table : String} {r : Relationship} (more : List Relationship)
    (hmem : r ∈ relationships) (h : q.LeadsTo table r) :
    q.firstPlace (relationships ++ more) table = q.firstPlace relationships table := by
  have hlt : (relationships.findIdx fun r => q.LeadsTo table r) < relationships.length :=
    firstPlace_lt hmem h
  rw [firstPlace, List.findIdx_append, if_pos hlt, firstPlace]

theorem FirstPerTarget.inOrder_append (h : q.FirstPerTarget relationships all) (r : Relationship) :
    all.Pairwise fun s t =>
      q.firstPlace (relationships ++ [r]) s.table < q.firstPlace (relationships ++ [r]) t.table := by
  refine h.inOrder.imp_of_mem fun {s t} hs ht hlt => ?_
  rw [firstPlace_append [r] (h.mem hs) (h.leadsTo hs), firstPlace_append [r] (h.mem ht) (h.leadsTo ht)]
  exact hlt

theorem FirstPerTarget.first_append (h : q.FirstPerTarget relationships all) (r : Relationship)
    (hs : s ∈ all) :
    ((relationships ++ [r]).find? fun r => q.LeadsTo s.table r) = some s.relationship := by
  rw [List.find?_append, h.first s hs, Option.some_or]

/-- A relationship that leads nowhere new changes nothing. -/
theorem FirstPerTarget.append_known {r : Relationship} (h : q.FirstPerTarget relationships all)
    (known : ∀ table, q.LeadsTo table r → ∃ s ∈ all, s.table = table) :
    q.FirstPerTarget (relationships ++ [r]) all where
  first _ hs := h.first_append r hs
  complete r' hr' table hleads := by
    rcases List.mem_append.mp hr' with hr' | hr'
    · exact h.complete r' hr' table hleads
    · exact known table (List.mem_singleton.mp hr' ▸ hleads)
  inOrder := h.inOrder_append r

/-- A relationship that leads to a new table comes last. -/
theorem FirstPerTarget.append_new (h : q.FirstPerTarget relationships all)
    (leads : q.LeadsTo s.table s.relationship) (new : ∀ t ∈ all, t.table ≠ s.table) :
    q.FirstPerTarget (relationships ++ [s.relationship]) (all ++ [s]) := by
  have hnone : ∀ r ∈ relationships, ¬ q.LeadsTo s.table r := by
    intro r hr hleads
    obtain ⟨t, ht, htable⟩ := h.complete r hr _ hleads
    exact new t ht htable
  constructor
  · refine forall_mem_append_singleton (fun t ht => h.first_append _ ht) ?_
    have hfind : (relationships.find? fun r => q.LeadsTo s.table r) = none :=
      List.find?_eq_none.mpr fun r hr => by simpa using hnone r hr
    rw [List.find?_append, hfind, Option.none_or]
    exact List.find?_cons_of_pos (decide_eq_true leads)
  · intro r hr table hleads
    rcases List.mem_append.mp hr with hr | hr
    · obtain ⟨t, ht, htable⟩ := h.complete r hr table hleads
      exact ⟨t, List.mem_append_left _ ht, htable⟩
    · rw [List.mem_singleton.mp hr] at hleads
      exact ⟨s, List.mem_append_right _ List.mem_cons_self, leads.unique hleads⟩
  · refine List.pairwise_append.mpr ⟨h.inOrder_append _, List.pairwise_singleton _ _, ?_⟩
    intro t ht s' hs'
    rw [List.mem_singleton.mp hs']
    have hplace : q.firstPlace relationships s.table = relationships.length :=
      List.findIdx_eq_length_of_false fun r hr => decide_eq_false (hnone r hr)
    calc q.firstPlace (relationships ++ [s.relationship]) t.table
        = q.firstPlace relationships t.table := firstPlace_append _ (h.mem ht) (h.leadsTo ht)
      _ < relationships.length := firstPlace_lt (h.mem ht) (h.leadsTo ht)
      _ ≤ q.firstPlace (relationships ++ [s.relationship]) s.table := by
        rw [firstPlace] at hplace
        rw [firstPlace, List.findIdx_append, hplace, if_neg (Nat.lt_irrefl _)]
        exact Nat.le_add_left _ _

theorem firstPerTable_append_singleton (suggestions : List RelatedTable) (s : RelatedTable) :
    firstPerTable (suggestions ++ [s]) =
      if (firstPerTable suggestions).any (fun k => k.table == s.table) then firstPerTable suggestions
      else firstPerTable suggestions ++ [s] := by
  rw [firstPerTable, List.foldl_append]
  rfl

/-- **What is kept of the suggestions** is the first relationship for each table. -/
theorem firstPerTarget_firstPerTable (q : Query) (relationships : List Relationship) :
    q.FirstPerTarget relationships (firstPerTable (relationships.filterMap q.otherEnd?)) := by
  induction relationships using List.reverseRecOn with
  | nil => exact ⟨List.forall_mem_nil _, List.forall_mem_nil _, List.Pairwise.nil⟩
  | append_singleton relationships r ih =>
      rw [List.filterMap_append]
      cases hr : q.otherEnd? r with
      | none =>
          rw [List.filterMap_cons_none hr, List.filterMap_nil, List.append_nil]
          refine ih.append_known fun table hleads => ?_
          have hsome : q.otherEnd? r = some ⟨table, r⟩ := otherEnd?_eq_some_iff.mpr ⟨rfl, hleads⟩
          rw [hr] at hsome
          cases hsome
      | some s =>
          obtain ⟨rfl, leads⟩ := otherEnd?_eq_some_iff.mp hr
          rw [List.filterMap_cons_some hr, List.filterMap_nil, firstPerTable_append_singleton]
          split
          · next hany =>
              obtain ⟨t, ht, htable⟩ := List.any_eq_true.mp hany
              refine ih.append_known fun table hleads => ⟨t, ht, ?_⟩
              rw [beq_iff_eq.mp htable, leads.unique hleads]
          · next hany =>
              refine ih.append_new leads fun t ht htable => hany ?_
              exact List.any_eq_true.mpr ⟨t, ht, beq_iff_eq.mpr htable⟩

end FirstPerTarget

/-! ## Suggestions -/

theorem leadsTo_of_mem_relatedTables {s : RelatedTable} (h : s ∈ q.relatedTables schema) :
    q.LeadsTo s.table s.relationship :=
  (firstPerTarget_firstPerTable q schema.relationships).leadsTo (List.mem_of_mem_take h)

/-- Fewer suggestions than there may be are all there are. -/
theorem exists_relatedTable (h : (q.relatedTables schema).length < relatedLimit) {r : Relationship}
    (hr : r ∈ schema.relationships) {table : String} (leads : q.LeadsTo table r) :
    ∃ s ∈ q.relatedTables schema, s.table = table := by
  have hall : q.relatedTables schema = firstPerTable (schema.relationships.filterMap q.otherEnd?) := by
    rw [relatedTables, List.length_take] at h
    exact List.take_of_length_le (by omega)
  rw [hall]
  exact (firstPerTarget_firstPerTable q schema.relationships).complete r hr table leads

/-! ## Taking a suggestion up -/

/-- **The join of a suggestion**: from a table of the query at the end of the relationship that is in the query,
to the table of the suggestion under its new id, on the column of either. -/
inductive Connects (q : Query) (s : RelatedTable) (newTableId : String) : Join → Prop
  | onward {t : QueryTable} (present : t ∈ q.tables) (source : t.name = s.relationship.fromTable)
      (target : s.table = s.relationship.toTable) :
      Connects q s newTableId
        ⟨t.id, s.relationship.fromColumn, newTableId, s.relationship.toColumn, .left⟩
  | back {t : QueryTable} (present : t ∈ q.tables) (source : t.name = s.relationship.toTable)
      (target : s.table = s.relationship.fromTable) :
      Connects q s newTableId
        ⟨t.id, s.relationship.toColumn, newTableId, s.relationship.fromColumn, .left⟩

theorem Connects.toTableId {s : RelatedTable} {newTableId : String} {j : Join}
    (h : q.Connects s newTableId j) : j.toTableId = newTableId := by
  cases h <;> rfl

theorem Connects.fromTableId_mem {s : RelatedTable} {newTableId : String} {j : Join}
    (h : q.Connects s newTableId j) : j.fromTableId ∈ q.ids := by
  cases h with
  | onward present | back present => exact List.mem_map_of_mem present

theorem exists_find?_of_mem_names {name : String} (h : name ∈ q.names) :
    ∃ t ∈ q.tables, t.name = name ∧ (q.tables.find? fun t => t.name == name) = some t := by
  obtain ⟨u, hu, rfl⟩ := List.mem_map.mp h
  have hsome : (q.tables.find? fun t => t.name == u.name).isSome :=
    List.find?_isSome.mpr ⟨u, hu, beq_self_eq_true u.name⟩
  obtain ⟨t, ht⟩ := Option.isSome_iff_exists.mp hsome
  have hname : (t.name == u.name) = true := by simpa using List.find?_some ht
  exact ⟨t, List.mem_of_find?_eq_some ht, beq_iff_eq.mp hname, ht⟩

/-- **A relationship that leads to the table gives a join.** -/
theorem exists_join? {s : RelatedTable} (leads : q.LeadsTo s.table s.relationship) (newTableId : String) :
    ∃ j, s.join? q newTableId = some j ∧ q.Connects s newTableId j := by
  rcases leads with ⟨hmem, -, htarget⟩ | ⟨hmem, hne, htarget⟩
  · obtain ⟨t, present, source, hfind⟩ := exists_find?_of_mem_names hmem
    refine ⟨_, ?_, .onward present source htarget.symm⟩
    rw [RelatedTable.join?, if_pos (beq_iff_eq.mpr htarget)]
    simp only [hfind, Option.map_some]
  · obtain ⟨t, present, source, hfind⟩ := exists_find?_of_mem_names hmem
    refine ⟨_, ?_, .back present source htarget.symm⟩
    -- the table of the suggestion is not the one that is in the query
    have hto : ¬(s.relationship.toTable == s.table) = true := by
      rw [beq_iff_eq, ← htarget]
      exact fun heq => hne (heq ▸ hmem)
    rw [RelatedTable.join?, if_neg hto]
    simp only [hfind, Option.map_some]

/-- **A suggestion that is taken up**: its table is added under an id that was not in use, its join connects
it and is accepted, and it is suggested no more. -/
structure BringsIn (schema : Schema) (q : Query) (s : RelatedTable) (j : Join) (added joined : Query) :
    Prop where
  join : s.join? q q.nextTableId = some j
  new : q.nextTableId ∉ q.ids
  addsTable : q.edit? schema (.addTable s.table) = some added
  tables : added.tables = q.tables ++ [.plain q.nextTableId s.table]
  connects : q.Connects s q.nextTableId j
  addsJoin : added.edit? schema (.addJoin j) = some joined
  joins : joined.joins = q.joins ++ [j]
  gone : ∀ other ∈ joined.relatedTables schema, other.table ≠ s.table

theorem bringsIn_of_leadsTo {s : RelatedTable} (leads : q.LeadsTo s.table s.relationship)
    (known : ∃ t ∈ schema.tables, t.name = s.table) (refers : q.RefersToTables) (free : q.NumbersLeft) :
    ∃ j added joined, BringsIn schema q s j added joined := by
  obtain ⟨j, hjoin, connects⟩ := exists_join? leads q.nextTableId
  have new : q.nextTableId ∉ q.ids := nextTableId_not_mem_ids free
  set added : Query := { q with tables := q.tables ++ [.plain q.nextTableId s.table] } with hadded
  have addsTable : Step schema q (.addTable s.table) added := by
    obtain ⟨t, ht, hname⟩ := known
    refine .addTable (List.find?_isSome.mpr ⟨t, ht, beq_iff_eq.mpr hname⟩) ?_
    rw [hasTableNamed_eq_decide, decide_eq_false leads.not_mem]
  have addsJoin : Step schema added (.addJoin j) { added with joins := added.joins ++ [j] } := by
    refine .addJoin ?_ ?_ ?_
    · exact hasTableId_iff_mem_ids.mpr (mem_ids_append connects.fromTableId_mem)
    · refine hasTableId_iff.mpr ⟨.plain q.nextTableId s.table, ?_, connects.toTableId.symm⟩
      exact List.mem_append_right _ List.mem_cons_self
    · -- every join that is there refers to tables that were there
      intro hmem
      exact new (connects.toTableId ▸ (refers.joins j hmem).2)
  refine ⟨j, added, _, hjoin, new, edit?_eq_some_iff.mpr addsTable, rfl, connects,
    edit?_eq_some_iff.mpr addsJoin, rfl, ?_⟩
  intro other hother htable
  refine (leadsTo_of_mem_relatedTables hother).not_mem ?_
  rw [htable]
  exact List.mem_map.mpr ⟨_, List.mem_append_right _ List.mem_cons_self, rfl⟩

/-- **Related tables are exact and usable.** Suggested are the first three of the tables that a relationship
leads to, each with the first relationship that leads there and in the order of these, so that none is missing
if there are fewer than three; none is in the query, and no relationship of a table with itself is among them.
In a query whose entries refer to its tables, and whose ids have not run out, every suggestion of a table of the
schema can be taken up. -/
theorem relatedTables_exact_and_usable (schema : Schema) (q : Query) :
    (∃ all, q.FirstPerTarget schema.relationships all ∧
      (∀ others, q.FirstPerTarget schema.relationships others → others = all) ∧
      q.relatedTables schema = all.take 3) ∧
    ((q.relatedTables schema).length < 3 → ∀ r ∈ schema.relationships, ∀ table, q.LeadsTo table r →
      ∃ s ∈ q.relatedTables schema, s.table = table) ∧
    (∀ s ∈ q.relatedTables schema,
      s.table ∉ q.names ∧ s.relationship.fromTable ≠ s.relationship.toTable) ∧
    (q.RefersToTables → q.NumbersLeft → ∀ s ∈ q.relatedTables schema,
      (∃ t ∈ schema.tables, t.name = s.table) →
        ∃ j added joined, BringsIn schema q s j added joined) := by
  have hfirst := firstPerTarget_firstPerTable q schema.relationships
  refine ⟨⟨_, hfirst, fun others h => h.unique hfirst, rfl⟩, ?_, ?_, ?_⟩
  · exact fun h r hr table leads => exists_relatedTable h hr leads
  · intro s hs
    have leads := leadsTo_of_mem_relatedTables hs
    exact ⟨leads.not_mem, leads.ends_ne⟩
  · intro refers free s hs known
    exact bringsIn_of_leadsTo (leadsTo_of_mem_relatedTables hs) known refers free

/-- A schema with relationships in both directions, and with one of them twice. -/
def retailSchema : Schema where
  tables := ["orders", "customers", "products", "regions", "refunds", "shipments"].map fun name =>
    ⟨name, "public", [.ofType "id" "integer"], none⟩
  relationships := [
    ⟨"orders", "customer_id", "customers", "id"⟩, ⟨"orders", "product_id", "products", "id"⟩,
    ⟨"orders", "customer_id", "customers", "id"⟩, ⟨"customers", "region_id", "regions", "id"⟩,
    ⟨"refunds", "order_id", "orders", "id"⟩, ⟨"shipments", "order_id", "orders", "id"⟩]

/-- A query of one table. -/
def ofTable (name : String) : Query := { empty with tables := [.plain "t1" name] }

/-- Beside the orders the third suggestion is taken up against its relationship; beside the regions there is
one suggestion only. -/
theorem relatedTables_retail :
    ((ofTable "orders").relatedTables retailSchema).map RelatedTable.table =
        ["customers", "products", "refunds"] ∧
      ((ofTable "orders").RefersToTables ∧ (ofTable "orders").NumbersLeft ∧
        ∃ j added joined, j = ⟨"t1", "id", "t2", "order_id", .left⟩ ∧
          BringsIn retailSchema (ofTable "orders") ⟨"refunds", ⟨"refunds", "order_id", "orders", "id"⟩⟩ j
            added joined) ∧
      (((ofTable "regions").relatedTables retailSchema).length < 3 ∧
        ∃ s ∈ (ofTable "regions").relatedTables retailSchema, s.table = "customers") := by
  obtain ⟨-, -, -, husable⟩ := relatedTables_exact_and_usable retailSchema (ofTable "orders")
  obtain ⟨-, hmissing, -, -⟩ := relatedTables_exact_and_usable retailSchema (ofTable "regions")
  have refers : (ofTable "orders").RefersToTables :=
    ⟨List.forall_mem_nil _, List.forall_mem_nil _, List.forall_mem_nil _, List.forall_mem_nil _,
      List.forall_mem_nil _⟩
  have free : (ofTable "orders").NumbersLeft := by decide
  have few : ((ofTable "regions").relatedTables retailSchema).length < 3 := by decide
  obtain ⟨j, added, joined, brings⟩ := husable refers free
    ⟨"refunds", ⟨"refunds", "order_id", "orders", "id"⟩⟩ (by decide) (by decide)
  have hjoin : some j = some ⟨"t1", "id", "t2", "order_id", .left⟩ := brings.join.symm.trans (by decide)
  refine ⟨by decide, ⟨refers, free, j, added, joined, Option.some.inj hjoin, brings⟩, few, ?_⟩
  exact hmissing few ⟨"customers", "region_id", "regions", "id"⟩ (by decide) "customers" (by decide)

end Query

end QueryDesk
