import QueryDesk.Backend.Call
import QueryDesk.Proofs.Json.Record

/-! # Schemas are read back

Every part of a schema is read back from the JSON it is written as, whether its optional member is left out
where there is no value (the estimate of a row count) or written as null (a default value). No part of it is a
number that could be rounded, so a schema is read back from its texts without any condition
(`Schema.read_written`), and whatever is looked up in what was read is found as before.
-/

set_option autoImplicit false

namespace QueryDesk

open Json

/-! ## The parts of a schema -/

theorem Column.ofJson?_toJson (c : Column) : ofJson? c.toJson = some c := by
  obtain ⟨f, hfields, hfind⟩ : ∃ f, c.toJson.fields?
      ["name", "dataType", "nullable", "isPrimaryKey", "defaultValue"] = some f ∧ _ :=
    exists_fields?_object (by decide) (List.Sublist.refl _)
  have hname : f.required "name" asText? = some c.name := required_of_find? (hfind "name") rfl
  have htype : f.required "dataType" asText? = some c.dataType := required_of_find? (hfind "dataType") rfl
  have hnullable : f.withDefault "nullable" asBool? false = some c.nullable :=
    withDefault_of_find? (hfind "nullable") rfl
  have hkey : f.withDefault "isPrimaryKey" asBool? false = some c.isPrimaryKey :=
    withDefault_of_find? (hfind "isPrimaryKey") rfl
  have hdefault : f.optional "defaultValue" asText? = some c.defaultValue :=
    optional_of_find?_ofOption (hfind "defaultValue") fun _ => rfl
  rw [ofJson?, hfields]
  simp only [Option.bind_eq_bind, Option.bind_some, hname, htype, hnullable, hkey, hdefault]

theorem Relationship.ofJson?_toJson (r : Relationship) : ofJson? r.toJson = some r := by
  obtain ⟨f, hfields, hfind⟩ : ∃ f, r.toJson.fields?
      ["fromTable", "fromColumn", "toTable", "toColumn"] = some f ∧ _ :=
    exists_fields?_object (by decide) (List.Sublist.refl _)
  have hfromTable : f.required "fromTable" asText? = some r.fromTable :=
    required_of_find? (hfind "fromTable") rfl
  have hfromColumn : f.required "fromColumn" asText? = some r.fromColumn :=
    required_of_find? (hfind "fromColumn") rfl
  have htoTable : f.required "toTable" asText? = some r.toTable := required_of_find? (hfind "toTable") rfl
  have htoColumn : f.required "toColumn" asText? = some r.toColumn :=
    required_of_find? (hfind "toColumn") rfl
  rw [ofJson?, hfields]
  simp only [Option.bind_eq_bind, Option.bind_some, hfromTable, hfromColumn, htoTable, htoColumn]

/-- The estimate of a row count is left out of what is written where there is none. -/
theorem Table.toJson_eq (t : Table) : t.toJson = .object ([("name", .text t.name),
    ("schemaName", .text t.schemaName), ("columns", .ofList Column.toJson t.columns)] ++
      optionalMember "rowCountEstimate" natural t.rowCountEstimate) := rfl

theorem Table.ofJson?_toJson (t : Table) : ofJson? t.toJson = some t := by
  obtain ⟨f, hfields, hfind⟩ : ∃ f, t.toJson.fields?
      ["name", "schemaName", "columns", "rowCountEstimate"] = some f ∧ _ := by
    rw [toJson_eq]
    refine exists_fields?_object (by decide) ?_
    rw [List.map_append]
    exact (List.Sublist.refl _).append (optionalMember_names _ _ _)
  have hname : f.required "name" asText? = some t.name := required_of_find? (hfind "name") rfl
  have hschema : f.withDefault "schemaName" asText? "" = some t.schemaName :=
    withDefault_of_find? (hfind "schemaName") rfl
  have hcolumns : f.withDefault "columns" (asList? Column.ofJson?) [] = some (t.columns.map id) :=
    withDefault_of_find? (hfind "columns") (asList?_ofList fun c _ => c.ofJson?_toJson)
  have hmember : f.find? "rowCountEstimate" = t.rowCountEstimate.map natural := by
    rw [hfind]
    simp [List.lookup_cons, lookup_optionalMember]
  have hestimate : f.optional "rowCountEstimate" asUInt64? = some t.rowCountEstimate :=
    optional_of_find? hmember fun _ => rfl
  rw [ofJson?, hfields]
  simp only [Option.bind_eq_bind, Option.bind_some, hname, hschema, hcolumns, hestimate, List.map_id]

namespace Schema

theorem ofJson?_toJson (s : Schema) : ofJson? s.toJson = some s := by
  obtain ⟨f, hfields, hfind⟩ : ∃ f, s.toJson.fields? ["tables", "relationships"] = some f ∧ _ :=
    exists_fields?_object (by decide) (List.Sublist.refl _)
  have htables : f.withDefault "tables" (asList? Table.ofJson?) [] = some (s.tables.map id) :=
    withDefault_of_find? (hfind "tables") (asList?_ofList fun t _ => t.ofJson?_toJson)
  have hrelationships : f.withDefault "relationships" (asList? Relationship.ofJson?) [] =
      some (s.relationships.map id) :=
    withDefault_of_find? (hfind "relationships") (asList?_ofList fun r _ => r.ofJson?_toJson)
  rw [ofJson?, hfields]
  simp only [Option.bind_eq_bind, Option.bind_some, htables, hrelationships, List.map_id]

end Schema

/-! ## How a schema is written -/

theorem Column.writableWithin (c : Column) (limit : Nat) : WritableWithin (limit + 1) c.toJson := by
  refine writableWithin_object ?_
  simp only [List.forall_mem_cons]
  have hdefault : WritableWithin limit (.ofOption .text c.defaultValue) := by
    cases c.defaultValue with
    | none => exact writableWithin_null limit
    | some s => exact writableWithin_text limit s
  exact ⟨writableWithin_text limit _, writableWithin_text limit _, writableWithin_bool limit _,
    writableWithin_bool limit _, hdefault, by simp⟩

theorem Relationship.writableWithin (r : Relationship) (limit : Nat) :
    WritableWithin (limit + 1) r.toJson := by
  refine writableWithin_object ?_
  simp only [List.forall_mem_cons]
  have htext (s : String) : WritableWithin limit (.text s) := writableWithin_text limit s
  exact ⟨htext _, htext _, htext _, htext _, by simp⟩

theorem Table.writableWithin (t : Table) (limit : Nat) : WritableWithin (limit + 3) t.toJson := by
  rw [toJson_eq]
  refine writableWithin_object ?_
  simp only [List.forall_mem_append, List.forall_mem_cons, forall_mem_optionalMember]
  have hcolumns : WritableWithin (limit + 2) (.ofList Column.toJson t.columns) :=
    writableWithin_ofList fun c _ => c.writableWithin limit
  exact ⟨⟨writableWithin_text _ _, writableWithin_text _ _, hcolumns, by simp⟩,
    fun _ _ => writableWithin_natural _ _⟩

namespace Schema

theorem writableWithin (s : Schema) (limit : Nat) : WritableWithin (limit + 5) s.toJson := by
  refine writableWithin_object ?_
  simp only [List.forall_mem_cons]
  exact ⟨writableWithin_ofList fun t _ => t.writableWithin limit,
    writableWithin_ofList fun r _ => r.writableWithin (limit + 2), by simp⟩

/-! ## The round trip -/

/-- **A schema that reads the same**: it is the same one, and so every table and column is found under the
same names, with the same category and under the same qualified name. -/
structure ReadsAs (read s : Schema) : Prop where
  eq : read = s
  table? : ∀ name, read.table? name = s.table? name
  column? : ∀ table name, read.column? table name = s.column? table name
  category : ∀ table name,
    (read.column? table name).map Column.category = (s.column? table name).map Column.category
  qualifiedName : read.tables.map Table.qualifiedName = s.tables.map Table.qualifiedName

theorem ReadsAs.refl (s : Schema) : s.ReadsAs s :=
  ⟨rfl, fun _ => rfl, fun _ _ => rfl, fun _ _ => rfl, rfl⟩

/-- What a text is read as when it is parsed as the JSON of a schema. -/
theorem bind_ofJson?_of_parse? {s : Schema} {text : String} (hparse : parse? text = some s.toJson) :
    ∃ read, (parse? text).bind ofJson? = some read ∧ read.ReadsAs s := by
  refine ⟨s, ?_, .refl s⟩
  rw [hparse, Option.bind_some, ofJson?_toJson]

/-- A response whose body is parsed as the JSON of a schema holds that schema. -/
theorem readSchema_of_parse? {s : Schema} {text : String} (hparse : parse? text = some s.toJson)
    (r : Response) : Backend.readSchema { r with body := .text text } = .ok s := by
  have harrived : Backend.arrivedJson { r with body := .text text } = .ok s.toJson := by
    simp only [Backend.arrivedJson, Backend.arrivedText, bind, Except.bind, hparse]
  simp only [Backend.readSchema, harrived, bind, Except.bind, ofJson?_toJson]

/-- **A schema is read back from its JSON**, whether that is written without gaps or with a line for every
item, also with the end of a line behind it, as it is printed; and it is read from the body of a response of
the backend that holds its JSON. -/
theorem read_written (s : Schema) :
    (∃ read, (parse? s.toJson.toCompact).bind ofJson? = some read ∧ read.ReadsAs s) ∧
    (∃ read, (parse? s.toJson.toPretty).bind ofJson? = some read ∧ read.ReadsAs s) ∧
    (∃ read, (parse? (s.toJson.toPretty ++ "\n")).bind ofJson? = some read ∧ read.ReadsAs s) ∧
    ∀ r : Response, Backend.readSchema { r with body := .text s.toJson.toCompact } = .ok s := by
  have hwritable : s.toJson.Writable := (s.writableWithin 0).1
  have hcompact := parse?_toCompact hwritable
  exact ⟨bind_ofJson?_of_parse? hcompact, bind_ofJson?_of_parse? (parse?_toPretty hwritable),
    bind_ofJson?_of_parse? (parse?_toPretty_line hwritable), readSchema_of_parse? hcompact⟩

end Schema

end QueryDesk
