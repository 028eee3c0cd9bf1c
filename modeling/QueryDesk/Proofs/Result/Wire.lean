import QueryDesk.Proofs.Result.Cell
import QueryDesk.Proofs.Result.Shape

/-! # Results are read back

A result is written with its cells as they are, but read as whatever a backend may send: the cells may be
any values, and types, rows and the number of rows may be missing. A result with the shape of a table is
nevertheless read back as it was (`read_of_parse?_toJson`), since what it is written as is taken in with
nothing to add (`ofRaw_written`). Together with the check of the shape this is `ingestion`: what was once
taken in stays the same however often it is written and read.

Of the numbers in the cells it is assumed that they are read back from their own texts.
-/

set_option autoImplicit false

namespace QueryDesk

open Json

/-! ## What a result is written as -/

theorem heldCell?_toJson (c : Cell) : heldCell? c.toJson = some c.toJson := by
  cases c <;> simp [heldCell?, Cell.toJson, double, heldWithin]

namespace QueryResult

/-- The numbers in the cells of a result. -/
def numbers (r : QueryResult) : List Double := r.rows.flatMap fun row => row.filterMap Cell.ownNumber?

/-- What is sent where a result is written. -/
def written (r : QueryResult) : RawResult :=
  ⟨r.columns, r.columnTypes, r.rows.map fun row => row.map Cell.toJson, some r.rowCount, r.truncated,
    r.executionTimeMs⟩

theorem rawOfJson?_toJson (r : QueryResult) : RawResult.ofJson? r.toJson = some r.written := by
  obtain ⟨f, hfields, hfind⟩ : ∃ f, r.toJson.fields?
      ["columns", "columnTypes", "rows", "rowCount", "truncated", "executionTimeMs"] = some f ∧ _ :=
    exists_fields?_object (by decide) (List.Sublist.refl _)
  have hcolumns : f.required "columns" (asList? asText?) = some (r.columns.map id) :=
    required_of_find? (hfind "columns") (asList?_ofList fun _ _ => rfl)
  have hcolumnTypes : f.withDefault "columnTypes" (asList? asText?) [] = some (r.columnTypes.map id) :=
    withDefault_of_find? (hfind "columnTypes") (asList?_ofList fun _ _ => rfl)
  have hrows : f.withDefault "rows" (asList? (asList? heldCell?)) [] =
      some (r.rows.map fun row => row.map Cell.toJson) :=
    withDefault_of_find? (hfind "rows")
      (asList?_ofList fun _ _ => asList?_ofList fun c _ => heldCell?_toJson c)
  have hrowCount : f.optional "rowCount" asUInt64? = some (some r.rowCount) :=
    withDefault_of_find? (hfind "rowCount") rfl
  have htruncated : f.withDefault "truncated" asBool? false = some r.truncated :=
    withDefault_of_find? (hfind "truncated") rfl
  have htime : f.withDefault "executionTimeMs" asUInt64? 0 = some r.executionTimeMs :=
    withDefault_of_find? (hfind "executionTimeMs") rfl
  rw [RawResult.ofJson?, hfields]
  simp only [Option.bind_eq_bind, Option.bind_some, hcolumns, hcolumnTypes, hrows, hrowCount, htruncated,
    htime, List.map_id]
  rfl

/-- **What a table is written as is taken in as the table itself.** -/
theorem ofRaw_written {r : QueryResult} (h : r.Shaped) : ofRaw r.written = .ok r := by
  refine ofRaw_eq_ok_iff.mpr ⟨.inr h.columnTypes, ?_, ?_⟩
  · refine List.forall_mem_map.mpr fun row hrow => ?_
    rw [List.length_map]
    exact h.rows row hrow
  · -- types are missing only where there are no columns
    have htypes : typesFor r.columns r.columnTypes = r.columnTypes := by
      by_cases hsent : r.columnTypes = []
      · have hcolumns : r.columns = [] := by
          rw [← List.length_eq_zero_iff, ← h.columnTypes, hsent]
          rfl
        rw [hsent, hcolumns]
        rfl
      · exact typesFor_of_ne_nil hsent
    have hrows : (r.rows.map fun row => row.map Cell.toJson).map (fun row => row.map Cell.ofValue) =
        r.rows := by
      simp only [List.map_map, Function.comp_def, Cell.ofValue_toJson, List.map_id']
    simp only [written, htypes, hrows, Option.getD_some]

theorem ofJson_toJson {r : QueryResult} (h : r.Shaped) : ofJson r.toJson = .ok r := by
  rw [ofJson, rawOfJson?_toJson]
  dsimp only
  rw [ofRaw_written h]

/-! ## The text of a result -/

theorem writableWithin {r : QueryResult} (h : ∀ x ∈ r.numbers, x.ReadsBack) (limit : Nat) :
    WritableWithin (limit + 3) r.toJson := by
  refine writableWithin_object ?_
  simp only [List.forall_mem_cons]
  have hrows : WritableWithin (limit + 2) (.ofList (Json.ofList Cell.toJson) r.rows) := by
    refine writableWithin_ofList fun row hrow => writableWithin_ofList fun c hc => ?_
    refine Cell.writableWithin ?_ limit
    intro x hx
    exact h x (List.mem_flatMap.mpr ⟨row, hrow, List.mem_filterMap.mpr ⟨c, hc, hx⟩⟩)
  refine ⟨?_, ?_, hrows, writableWithin_natural _ _, writableWithin_bool _ _, writableWithin_natural _ _,
    by simp⟩
  · exact writableWithin_ofList fun _ _ => writableWithin_text _ _
  · exact writableWithin_ofList fun _ _ => writableWithin_text _ _

theorem read_of_parse?_toJson {r : QueryResult} (h : r.Shaped) {text : String}
    (hparse : parse? text = some r.toJson) : read text = .ok r := by
  rw [read, hparse]
  exact ofJson_toJson h

/-- **A table is read back from its text**, with or without gaps. -/
theorem read_toJson {r : QueryResult} (h : r.Shaped) (hnumbers : ∀ x ∈ r.numbers, x.ReadsBack) :
    read r.toJson.toCompact = .ok r ∧ read r.toJson.toPretty = .ok r := by
  have hwritable : r.toJson.Writable := (writableWithin hnumbers 0).1
  exact ⟨read_of_parse?_toJson h (parse?_toCompact hwritable),
    read_of_parse?_toJson h (parse?_toPretty hwritable)⟩

/-! ## What was read -/

theorem finite_of_rawOfJson? {v : Json} {raw : RawResult} (hv : v.Finite)
    (h : RawResult.ofJson? v = some raw) : ∀ row ∈ raw.rows, ∀ w ∈ row, w.Finite := by
  simp only [RawResult.ofJson?, Option.bind_eq_bind, Option.bind_eq_some_iff, Option.some.injEq] at h
  obtain ⟨f, hfields, _, -, _, -, rows, hrows, _, -, _, -, _, -, rfl⟩ := h
  rcases eq_default_or_exists hrows with rfl | ⟨u, hfind, hlist⟩
  · simp
  · intro row hrow w hw
    obtain ⟨u', hu', hrow'⟩ := exists_of_asList? (leaves_of_find? hfields hv hfind) hlist row hrow
    obtain ⟨w', hw', hcell⟩ := exists_of_asList? hu' hrow' w hw
    -- a cell is held as it was sent
    rw [heldCell?, Option.ite_none_right_eq_some] at hcell
    exact Option.some.inj hcell.2 ▸ hw'

/-- **What was read holds the cells that were sent, and its numbers are finite.** -/
theorem of_read {text : String} {r : QueryResult} (h : read text = .ok r) :
    r.Shaped ∧ (∃ raw, (parse? text).bind RawResult.ofJson? = some raw ∧
      r.rows = raw.rows.map fun row => row.map Cell.ofValue) ∧ ∀ x ∈ r.numbers, x.isFinite = true := by
  unfold read at h
  split at h
  · simp at h
  · next v hparse =>
      obtain ⟨raw, hread, hraw⟩ := exists_raw_of_ofJson h
      have hfinite := finite_of_rawOfJson? (finite_of_parse? hparse) hread
      obtain ⟨-, -, rfl⟩ := ofRaw_eq_ok_iff.mp hraw
      refine ⟨shaped_of_ofRaw hraw, ⟨raw, ?_, rfl⟩, ?_⟩
      · rw [hparse, Option.bind_some, hread]
      · intro x hx
        obtain ⟨row, hrow, hx⟩ := List.mem_flatMap.mp hx
        obtain ⟨sent, hsent, rfl⟩ := List.mem_map.mp hrow
        obtain ⟨c, hc, hx⟩ := List.mem_filterMap.mp hx
        obtain ⟨w, hw, rfl⟩ := List.mem_map.mp hc
        exact Cell.isFinite_of_ofValue (hfinite sent hsent w hw) x hx

/-! ## Taking in and reading back -/

/-- **What is taken in is a table, and stays as it is.** What was sent becomes a result exactly if types are
left out or there is one for every column, and every row has a cell for every column; otherwise the error is
that the numbers of columns and types differ, or else it names the first row that does not fit. Whatever
became a result has the shape of a table. A result with that shape is read back from its text, with or
without gaps. What was read from any text has finite numbers only and is read back as it is, so a container
becomes the text of its JSON once and no more.

Of each number in a cell it is assumed that it is read back from the text it is written as, which holds of
finite numbers only (`Double.ReadsBack.isFinite`). -/
theorem ingestion :
    (∀ raw : RawResult,
      ((∃ r, ofRaw raw = .ok r) ↔ raw.TypesFit ∧ raw.RowsFit) ∧
      (¬raw.TypesFit →
        ofRaw raw = .error (.columnTypeMismatch raw.columns.length raw.columnTypes.length)) ∧
      (raw.TypesFit → ¬raw.RowsFit → ∃ index row, raw.FirstRagged index row ∧
        ofRaw raw = .error (.raggedRow index raw.columns.length row.length))) ∧
    ((∀ raw r, ofRaw raw = .ok r → r.Shaped) ∧ ∀ v r, ofJson v = .ok r → r.Shaped) ∧
    (∀ r : QueryResult, r.Shaped → (∀ x ∈ r.numbers, x.ReadsBack) →
      read r.toJson.toCompact = .ok r ∧ read r.toJson.toPretty = .ok r) ∧
    (∀ (text : String) (r : QueryResult), read text = .ok r →
      (∃ raw, (parse? text).bind RawResult.ofJson? = some raw ∧
        r.rows = raw.rows.map fun row => row.map Cell.ofValue) ∧
      (∀ x ∈ r.numbers, x.isFinite = true) ∧
      ((∀ x ∈ r.numbers, x.ReadsBack) →
        read r.toJson.toCompact = .ok r ∧ read r.toJson.toPretty = .ok r)) ∧
    (∀ v : Json, (∃ items, v = .array items) ∨ (∃ members, v = .object members) → v.Writable →
      ∃ s, Cell.ofValue v = .text s ∧ parse? s = some v.sorted ∧
        Cell.ofValue (Cell.ofValue v).toJson = .text s) := by
  refine ⟨?_, ⟨fun _ _ h => shaped_of_ofRaw h, fun _ _ h => shaped_of_ofJson h⟩,
    fun _ h hnumbers => read_toJson h hnumbers, ?_, fun _ h hv => Cell.exists_ofValue_container h hv⟩
  · intro raw
    refine ⟨exists_ofRaw_iff, ofRaw_of_not_typesFit, ?_⟩
    intro types hrows
    obtain ⟨index, row, hfirst⟩ := RawResult.exists_firstRagged hrows
    exact ⟨index, row, hfirst, ofRaw_of_firstRagged types hfirst⟩
  · intro text r hread
    obtain ⟨hshape, hcells, hfinite⟩ := of_read hread
    exact ⟨hcells, hfinite, read_toJson hshape⟩

/-- A value with members that are not in order. -/
def tags : Json := .object [("b", .array []), ("a", .bool true)]

/-- A payload without types, with a number and a container among its cells. -/
def notesPayload : Json :=
  .object [("columns", .ofList .text ["region", "notes"]),
    ("rows", .array [.array [.text "north", .double (.ofRatio false 5 2)], .array [.null, tags]])]

/-- The result of the payload. -/
def notesResult : QueryResult :=
  ⟨["region", "notes"], ["", ""],
    [[.text "north", .number (.ofRatio false 5 2)], [.null, .text "\x7b\"a\":true,\"b\":[]\x7d"]],
    2, false, 0⟩

theorem numbers_notesResult : ∀ x ∈ notesResult.numbers, x.ReadsBack := by
  intro x hx
  have hx : x = .ofRatio false 5 2 := List.mem_singleton.mp hx
  rw [hx, Double.readsBack_iff_scansBack]
  decide +kernel

theorem writable_tags : tags.Writable := ⟨trivial, trivial, trivial⟩

/-- A result as it was sent, with a second and a third row that are too short. -/
def raggedRaw : RawResult := ⟨["a", "b"], [], [[.null, .null], [.null], []], none, false, 0⟩

/-- The container in the payload becomes a text, and the second time nothing changes; a result with rows that
are too short is not taken in. -/
theorem ingestion_notes :
    (read notesPayload.toCompact = .ok notesResult ∧ notesResult.Shaped ∧
      read notesResult.toJson.toCompact = .ok notesResult) ∧
    (∃ s, Cell.ofValue tags = .text s ∧ parse? s = some tags.sorted) ∧
    ∃ index row, raggedRaw.FirstRagged index row ∧
      ofRaw raggedRaw = .error (.raggedRow index 2 row.length) := by
  obtain ⟨hraw, ⟨-, hshape⟩, -, hread, hcontainer⟩ := ingestion
  have hpayload : read notesPayload.toCompact = .ok notesResult := by decide +kernel
  obtain ⟨-, -, hagain⟩ := hread notesPayload.toCompact notesResult hpayload
  have hresult : ofJson notesResult.toJson = .ok notesResult := by decide +kernel
  refine ⟨⟨hpayload, hshape notesResult.toJson notesResult hresult, (hagain numbers_notesResult).1⟩, ?_, ?_⟩
  · obtain ⟨s, htext, hparse, -⟩ := hcontainer tags (.inr ⟨_, rfl⟩) writable_tags
    exact ⟨s, htext, hparse⟩
  · have htypes : raggedRaw.TypesFit := .inl rfl
    have hrows : ¬raggedRaw.RowsFit := fun h => absurd (h [.null] (by simp [raggedRaw])) (by decide)
    exact (hraw raggedRaw).2.2 htypes hrows

end QueryResult

end QueryDesk
