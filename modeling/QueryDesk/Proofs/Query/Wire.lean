import QueryDesk.Proofs.Result.Cell

/-! # Queries that were written

Every part of a query is read back from the JSON it is written as. There is one exception: a filter whose
value is a bare null is written like a filter without a value, and is read back as one
(`Filter.ofJson?_toJson`). A query is read back up to that (`Query.ofJson?_toJson`).
-/

set_option autoImplicit false

namespace QueryDesk

open Json

/-! ## Bare nulls -/

/-- The operand, or no operand where it is a bare null. -/
def Operand.unlessNull? : Operand → Option Operand
  | .scalar .null => none
  | o => some o

/-- The filter without a value where its value is a bare null. -/
def Filter.withoutBareNull (f : Filter) : Filter := { f with value := f.value.bind Operand.unlessNull? }

/-- **The query with every bare null in a filter replaced by an absent value**, and nothing else changed. -/
def Query.withoutBareNulls (q : Query) : Query := { q with filters := q.filters.map Filter.withoutBareNull }

/-! ## The parts of a query -/

theorem QueryTable.ofJson?_toJson (t : QueryTable) : ofJson? t.toJson = some t := by
  obtain ⟨f, hfields, hfind⟩ : ∃ f, t.toJson.fields? ["id", "name", "alias"] = some f ∧ _ := by
    refine exists_fields?_object (by decide) ?_
    rw [List.map_append]
    exact (List.Sublist.refl _).append (optionalMember_names _ _ _)
  have hid : f.required "id" asText? = some t.id := required_of_find? (hfind "id") rfl
  have hname : f.required "name" asText? = some t.name := required_of_find? (hfind "name") rfl
  have hmember : f.find? "alias" = t.label.map .text := by
    rw [hfind]
    simp [List.lookup_cons, lookup_optionalMember]
  have hlabel : f.optional "alias" asText? = some t.label := optional_of_find? hmember fun _ => rfl
  rw [ofJson?, hfields]
  simp only [Option.bind_eq_bind, Option.bind_some, hid, hname, hlabel]

theorem Join.ofJson?_toJson (j : Join) : ofJson? j.toJson = some j := by
  obtain ⟨f, hfields, hfind⟩ : ∃ f, j.toJson.fields?
      ["fromTableId", "fromColumn", "toTableId", "toColumn", "joinType"] = some f ∧ _ :=
    exists_fields?_object (by decide) (List.Sublist.refl _)
  have hfromTable : f.required "fromTableId" asText? = some j.fromTableId :=
    required_of_find? (hfind "fromTableId") rfl
  have hfromColumn : f.required "fromColumn" asText? = some j.fromColumn :=
    required_of_find? (hfind "fromColumn") rfl
  have htoTable : f.required "toTableId" asText? = some j.toTableId :=
    required_of_find? (hfind "toTableId") rfl
  have htoColumn : f.required "toColumn" asText? = some j.toColumn :=
    required_of_find? (hfind "toColumn") rfl
  have hkind : f.withDefault "joinType" (asWord? JoinKind.ofWord?) .left = some j.kind :=
    withDefault_of_find? (hfind "joinType") (JoinKind.ofWord?_word j.kind)
  rw [ofJson?, hfields]
  simp only [Option.bind_eq_bind, Option.bind_some, hfromTable, hfromColumn, htoTable, htoColumn, hkind]

theorem SortKey.ofJson?_toJson (s : SortKey) : ofJson? s.toJson = some s := by
  obtain ⟨f, hfields, hfind⟩ : ∃ f, s.toJson.fields?
      ["tableId", "column", "direction"] = some f ∧ _ :=
    exists_fields?_object (by decide) (List.Sublist.refl _)
  have htable : f.required "tableId" asText? = some s.tableId := required_of_find? (hfind "tableId") rfl
  have hcolumn : f.required "column" asText? = some s.column := required_of_find? (hfind "column") rfl
  have hdirection : f.withDefault "direction" (asWord? Direction.ofWord?) .asc = some s.direction :=
    withDefault_of_find? (hfind "direction") (Direction.ofWord?_word s.direction)
  rw [ofJson?, hfields]
  simp only [Option.bind_eq_bind, Option.bind_some, htable, hcolumn, hdirection]

theorem Grouping.ofJson?_toJson (g : Grouping) : ofJson? g.toJson = some g := by
  obtain ⟨f, hfields, hfind⟩ : ∃ f, g.toJson.fields? ["tableId", "column"] = some f ∧ _ :=
    exists_fields?_object (by decide) (List.Sublist.refl _)
  have htable : f.required "tableId" asText? = some g.tableId := required_of_find? (hfind "tableId") rfl
  have hcolumn : f.required "column" asText? = some g.column := required_of_find? (hfind "column") rfl
  rw [ofJson?, hfields]
  simp only [Option.bind_eq_bind, Option.bind_some, htable, hcolumn]

theorem Selection.ofJson?_toJson (s : Selection) : ofJson? s.toJson = some s := by
  obtain ⟨f, hfields, hfind⟩ : ∃ f, s.toJson.fields?
      ["tableId", "column", "aggregation", "alias", "dateTrunc"] = some f ∧ _ := by
    refine exists_fields?_object (by decide) ?_
    rw [List.map_append, List.map_append]
    exact ((List.Sublist.refl _).append (optionalMember_names _ _ _)).append (optionalMember_names _ _ _)
  have htable : f.required "tableId" asText? = some s.tableId := required_of_find? (hfind "tableId") rfl
  have hcolumn : f.required "column" asText? = some s.column := required_of_find? (hfind "column") rfl
  have haggregation :
      f.withDefault "aggregation" (asWord? Aggregation.ofWord?) .raw = some s.aggregation :=
    withDefault_of_find? (hfind "aggregation") (Aggregation.ofWord?_word s.aggregation)
  have hlabelMember : f.find? "alias" = s.label.map .text := by
    rw [hfind]
    simp [List.lookup_cons, List.lookup_append, lookup_optionalMember]
  have hlabel : f.optional "alias" asText? = some s.label := optional_of_find? hlabelMember fun _ => rfl
  have hintervalMember : f.find? "dateTrunc" = s.interval.map fun i => .text i.word := by
    rw [hfind]
    simp [List.lookup_cons, List.lookup_append, lookup_optionalMember]
  have hinterval : f.optional "dateTrunc" (asWord? Interval.ofWord?) = some s.interval :=
    optional_of_find? hintervalMember fun i => congrArg (Option.map some) (Interval.ofWord?_word i)
  rw [ofJson?, hfields]
  simp only [Option.bind_eq_bind, Option.bind_some, htable, hcolumn, haggregation, hlabel, hinterval]

/-! ## Filters -/

/-- **An operand is read back, but a bare null as no operand.** -/
theorem Operand.readOptional_toJson (o : Operand) :
    Fields.readOptional ofJson? o.toJson = some o.unlessNull? := by
  cases o with
  | list values =>
      have hcells : asList? Cell.ofJson? (.ofList Cell.toJson values) = some (values.map id) :=
        asList?_ofList fun c _ => c.ofJson?_toJson
      rw [List.map_id] at hcells
      show (ofJson? (.ofList Cell.toJson values)).map some = some (some (.list values))
      rw [ofJson?, hcells]
      rfl
  | scalar value => cases value <;> rfl

theorem Filter.ofJson?_toJson (x : Filter) : ofJson? x.toJson = some x.withoutBareNull := by
  obtain ⟨f, hfields, hfind⟩ : ∃ f, x.toJson.fields?
      ["tableId", "column", "operator", "value"] = some f ∧ _ := by
    refine exists_fields?_object (by decide) ?_
    rw [List.map_append]
    exact (List.Sublist.refl _).append (optionalMember_names _ _ _)
  have htable : f.required "tableId" asText? = some x.tableId := required_of_find? (hfind "tableId") rfl
  have hcolumn : f.required "column" asText? = some x.column := required_of_find? (hfind "column") rfl
  have hoperator : f.required "operator" (asWord? Operator.ofWord?) = some x.operator :=
    required_of_find? (hfind "operator") (Operator.ofWord?_word x.operator)
  have hmember : f.find? "value" = x.value.map Operand.toJson := by
    rw [hfind]
    simp [List.lookup_cons, lookup_optionalMember]
  have hvalue : f.optional "value" Operand.ofJson? = some (x.value.bind Operand.unlessNull?) :=
    optional_of_find?_map hmember Operand.readOptional_toJson
  rw [ofJson?, hfields]
  simp only [Option.bind_eq_bind, Option.bind_some, htable, hcolumn, hoperator, hvalue]
  rfl

/-! ## The query -/

/-- **A query is read back without its bare nulls.** -/
theorem Query.ofJson?_toJson (q : Query) : ofJson? q.toJson = some q.withoutBareNulls := by
  obtain ⟨f, hfields, hfind⟩ : ∃ f, q.toJson.fields?
      ["tables", "joins", "columns", "filters", "groupBy", "orderBy", "limit", "offset"] = some f ∧ _ := by
    refine exists_fields?_object (by decide) ?_
    simp only [List.map_append]
    have htables : List.Sublist ["tables"] ["tables"] := List.Sublist.refl _
    have hcolumns : List.Sublist ["columns"] ["columns"] := List.Sublist.refl _
    exact ((((((htables.append (listMember_names _ _ _)).append hcolumns).append
      (listMember_names _ _ _)).append (listMember_names _ _ _)).append
      (listMember_names _ _ _)).append (optionalMember_names _ _ _)).append (optionalMember_names _ _ _)
  simp only [List.lookup_append, lookup_singleton, lookup_listMember, lookup_optionalMember] at hfind
  have htables : f.required "tables" (asList? QueryTable.ofJson?) = some (q.tables.map id) := by
    refine required_of_find? ?_ (asList?_ofList fun t _ => t.ofJson?_toJson)
    simp [hfind]
  have hjoins : f.withDefault "joins" (asList? Join.ofJson?) [] = some (q.joins.map id) := by
    refine list_of_find? ?_ fun j _ => j.ofJson?_toJson
    simp [hfind]
  have hcolumns : f.required "columns" (asList? Selection.ofJson?) = some (q.columns.map id) := by
    refine required_of_find? ?_ (asList?_ofList fun c _ => c.ofJson?_toJson)
    simp [hfind]
  have hfilters : f.withDefault "filters" (asList? Filter.ofJson?) [] =
      some (q.filters.map Filter.withoutBareNull) := by
    refine list_of_find? ?_ fun x _ => x.ofJson?_toJson
    simp [hfind]
  have hgroupings : f.withDefault "groupBy" (asList? Grouping.ofJson?) [] = some (q.groupings.map id) := by
    refine list_of_find? ?_ fun g _ => g.ofJson?_toJson
    simp [hfind]
  have hsorts : f.withDefault "orderBy" (asList? SortKey.ofJson?) [] = some (q.sorts.map id) := by
    refine list_of_find? ?_ fun s _ => s.ofJson?_toJson
    simp [hfind]
  have hlimitMember : f.find? "limit" = q.limit.map fun n => natural n.toUInt64 := by simp [hfind]
  have hlimit : f.optional "limit" asUInt32? = some q.limit :=
    optional_of_find? hlimitMember fun n => congrArg (Option.map some) (asUInt32?_natural n)
  have hoffsetMember : f.find? "offset" = q.offset.map fun n => natural n.toUInt64 := by simp [hfind]
  have hoffset : f.optional "offset" asUInt32? = some q.offset :=
    optional_of_find? hoffsetMember fun n => congrArg (Option.map some) (asUInt32?_natural n)
  rw [ofJson?, hfields]
  simp only [Option.bind_eq_bind, Option.bind_some, htables, hjoins, hcolumns, hfilters, hgroupings, hsorts,
    hlimit, hoffset, List.map_id]
  rfl

/-! ## How a query is written -/

/-- The numbers in an operand. -/
def Operand.numbers : Operand → List Double
  | .list values => values.filterMap Cell.ownNumber?
  | .scalar value => [value].filterMap Cell.ownNumber?

/-- The numbers in a filter. -/
def Filter.numbers (f : Filter) : List Double := (f.value.map Operand.numbers).getD []

/-- **The numbers in the filters of a query.** -/
def Query.filterNumbers (q : Query) : List Double := q.filters.flatMap Filter.numbers

theorem QueryTable.writableWithin (t : QueryTable) (limit : Nat) : WritableWithin (limit + 1) t.toJson := by
  refine writableWithin_object ?_
  simp only [List.forall_mem_append, List.forall_mem_cons, forall_mem_optionalMember]
  exact ⟨⟨writableWithin_text limit _, writableWithin_text limit _, by simp⟩,
    fun _ _ => writableWithin_text limit _⟩

theorem Join.writableWithin (j : Join) (limit : Nat) : WritableWithin (limit + 1) j.toJson := by
  refine writableWithin_object ?_
  simp only [List.forall_mem_cons]
  exact ⟨writableWithin_text limit _, writableWithin_text limit _, writableWithin_text limit _,
    writableWithin_text limit _, writableWithin_text limit _, by simp⟩

theorem SortKey.writableWithin (s : SortKey) (limit : Nat) : WritableWithin (limit + 1) s.toJson := by
  refine writableWithin_object ?_
  simp only [List.forall_mem_cons]
  exact ⟨writableWithin_text limit _, writableWithin_text limit _, writableWithin_text limit _, by simp⟩

theorem Grouping.writableWithin (g : Grouping) (limit : Nat) : WritableWithin (limit + 1) g.toJson := by
  refine writableWithin_object ?_
  simp only [List.forall_mem_cons]
  exact ⟨writableWithin_text limit _, writableWithin_text limit _, by simp⟩

theorem Selection.writableWithin (s : Selection) (limit : Nat) : WritableWithin (limit + 1) s.toJson := by
  refine writableWithin_object ?_
  simp only [List.forall_mem_append, List.forall_mem_cons, forall_mem_optionalMember]
  have htext (s : String) : WritableWithin limit (.text s) := writableWithin_text limit s
  exact ⟨⟨⟨htext _, htext _, htext _, by simp⟩, fun _ _ => htext _⟩, fun _ _ => htext _⟩

theorem Operand.writableWithin {o : Operand} (h : ∀ x ∈ o.numbers, x.ReadsBack) (limit : Nat) :
    WritableWithin (limit + 1) o.toJson := by
  cases o with
  | list values =>
      refine writableWithin_ofList fun c hc => Cell.writableWithin ?_ limit
      intro x hx
      exact h x (List.mem_filterMap.mpr ⟨c, hc, hx⟩)
  | scalar value =>
      refine Cell.writableWithin ?_ (limit + 1)
      intro x hx
      exact h x (List.mem_filterMap.mpr ⟨value, List.mem_singleton_self value, hx⟩)

theorem Filter.writableWithin {f : Filter} (h : ∀ x ∈ f.numbers, x.ReadsBack) (limit : Nat) :
    WritableWithin (limit + 2) f.toJson := by
  refine writableWithin_object ?_
  simp only [List.forall_mem_append, List.forall_mem_cons, forall_mem_optionalMember]
  refine ⟨⟨writableWithin_text _ _, writableWithin_text _ _, writableWithin_text _ _, by simp⟩, ?_⟩
  intro o ho
  refine Operand.writableWithin ?_ limit
  intro x hx
  refine h x ?_
  rw [Filter.numbers, ho]
  exact hx

/-- **A query is written so that it is read back when the numbers in its filters are.** -/
theorem Query.writableWithin {q : Query} (h : ∀ x ∈ q.filterNumbers, x.ReadsBack) (limit : Nat) :
    WritableWithin (limit + 4) q.toJson := by
  refine writableWithin_object ?_
  simp only [List.forall_mem_append, List.forall_mem_singleton, forall_mem_optionalMember]
  have hfilters : WritableWithin (limit + 3) (.ofList Filter.toJson q.filters) := by
    refine writableWithin_ofList fun f hf => Filter.writableWithin ?_ limit
    intro x hx
    exact h x (List.mem_flatMap.mpr ⟨f, hf, hx⟩)
  refine ⟨⟨⟨⟨⟨⟨⟨?_, ?_⟩, ?_⟩, ?_⟩, ?_⟩, ?_⟩, ?_⟩, ?_⟩
  · exact writableWithin_ofList fun t _ => t.writableWithin (limit + 1)
  · exact forall_mem_listMember (writableWithin_ofList fun j _ => j.writableWithin (limit + 1))
  · exact writableWithin_ofList fun c _ => c.writableWithin (limit + 1)
  · exact forall_mem_listMember hfilters
  · exact forall_mem_listMember (writableWithin_ofList fun g _ => g.writableWithin (limit + 1))
  · exact forall_mem_listMember (writableWithin_ofList fun s _ => s.writableWithin (limit + 1))
  · exact fun n _ => writableWithin_natural _ _
  · exact fun n _ => writableWithin_natural _ _

end QueryDesk
