import QueryDesk.Result.Wire

/-! # The shape of a result

A result has a type for every column and a cell for every column in every row (`QueryResult.Shaped`). What
was sent becomes a result exactly if it fits that shape, where types may also be left out altogether
(`exists_ofRaw_iff`); otherwise the error says that the types do not fit, or else which row is the first one
that does not (`ofRaw_of_not_typesFit`, `ofRaw_of_firstRagged`). So no result is read that is not a table
(`shaped_of_ofRaw`, `shaped_of_read`).
-/

set_option autoImplicit false

namespace QueryDesk

/-- **A result with the shape of a table**: a type for every column, and in every row a cell for every
column. -/
structure QueryResult.Shaped (r : QueryResult) : Prop where
  columnTypes : r.columnTypes.length = r.columns.length
  rows : ∀ row ∈ r.rows, row.length = r.columns.length

namespace RawResult

/-- Whether the types that were sent fit: there are none, or one for every column. -/
def TypesFit (raw : RawResult) : Prop :=
  raw.columnTypes = [] ∨ raw.columnTypes.length = raw.columns.length

/-- Whether every row that was sent has a cell for every column. -/
def RowsFit (raw : RawResult) : Prop := ∀ row ∈ raw.rows, row.length = raw.columns.length

/-- **The first row that does not have a cell for every column**, and its index. -/
structure FirstRagged (raw : RawResult) (index : Nat) (row : List Json) : Prop where
  there : raw.rows[index]? = some row
  ragged : row.length ≠ raw.columns.length
  earlier : ∀ i < index, ∀ row', raw.rows[i]? = some row' → row'.length = raw.columns.length

/-- Where not all rows fit there is a first one that does not. -/
theorem exists_firstRagged {raw : RawResult} (h : ¬raw.RowsFit) :
    ∃ index row, raw.FirstRagged index row := by
  have hsome : ∃ row ∈ raw.rows, (row.length != raw.columns.length) = true := by
    obtain ⟨row, hrow⟩ := Classical.not_forall.mp h
    obtain ⟨hmem, hne⟩ := Classical.not_imp.mp hrow
    exact ⟨row, hmem, bne_iff_ne.mpr hne⟩
  have hlt : raw.rows.findIdx (fun row => row.length != raw.columns.length) < raw.rows.length :=
    List.findIdx_lt_length.mpr hsome
  refine ⟨_, _, List.getElem?_eq_getElem hlt, bne_iff_ne.mp (List.findIdx_getElem (w := hlt)), ?_⟩
  intro i hi row' hrow'
  obtain ⟨hi', rfl⟩ := List.getElem?_eq_some_iff.mp hrow'
  have hfits := List.not_of_lt_findIdx hi
  rwa [bne_eq_false_iff_eq] at hfits

end RawResult

/-! ## The check -/

theorem raggedRow?_eq_none_iff {columns row : Nat} {lengths : List Nat} :
    raggedRow? columns row lengths = none ↔ ∀ found ∈ lengths, found = columns := by
  induction lengths generalizing row with
  | nil => simp [raggedRow?]
  | cons found rest ih =>
      rw [raggedRow?, List.forall_mem_cons]
      by_cases hfound : found = columns
      · rw [if_pos hfound, ih, and_iff_right hfound]
      · simp [hfound]

/-- Rows are counted from `row`, and those before the one that is named have the right length. -/
theorem raggedRow?_of_first {columns row index found : Nat} {lengths : List Nat}
    (there : lengths[index]? = some found) (ragged : found ≠ columns)
    (earlier : ∀ i < index, ∀ n, lengths[i]? = some n → n = columns) :
    raggedRow? columns row lengths = some (.raggedRow (row + index) columns found) := by
  induction lengths generalizing row index with
  | nil => simp at there
  | cons first rest ih =>
      cases index with
      | zero =>
          rw [List.getElem?_cons_zero, Option.some.injEq] at there
          subst there
          rw [raggedRow?, if_neg ragged, Nat.add_zero]
      | succ index =>
          have hfirst : first = columns := earlier 0 (Nat.succ_pos index) first rfl
          rw [List.getElem?_cons_succ] at there
          rw [raggedRow?, if_pos hfirst, ih there fun i hi => earlier (i + 1) (Nat.succ_lt_succ hi),
            Nat.add_assoc, Nat.add_comm 1 index]

theorem shapeError?_eq_none_iff {columns types : Nat} {lengths : List Nat} :
    shapeError? columns types lengths = none ↔
      columns = types ∧ ∀ found ∈ lengths, found = columns := by
  rw [shapeError?]
  by_cases h : columns = types
  · rw [if_pos h, raggedRow?_eq_none_iff, and_iff_right h]
  · simp [h]

namespace QueryResult

/-! ## Taking in what was sent -/

theorem typesFor_length_iff {columns types : List String} :
    columns.length = (typesFor columns types).length ↔ types = [] ∨ types.length = columns.length := by
  cases types with
  | nil => simp [typesFor]
  | cons type rest => simp [typesFor, eq_comm]

/-- Types that were sent are kept. -/
theorem typesFor_of_ne_nil {columns types : List String} (h : types ≠ []) :
    typesFor columns types = types := by
  rw [typesFor, List.isEmpty_eq_false_iff.mpr h]
  rfl

/-- **What is accepted, and what it becomes.** -/
theorem ofRaw_eq_ok_iff {raw : RawResult} {r : QueryResult} :
    ofRaw raw = .ok r ↔ raw.TypesFit ∧ raw.RowsFit ∧
      ⟨raw.columns, typesFor raw.columns raw.columnTypes,
        raw.rows.map fun row => row.map Cell.ofValue,
        raw.rowCount.getD (UInt64.ofNat raw.rows.length), raw.truncated,
        raw.executionTimeMs⟩ = r := by
  have hshape : shapeError? raw.columns.length (typesFor raw.columns raw.columnTypes).length
      (raw.rows.map List.length) = none ↔ raw.TypesFit ∧ raw.RowsFit := by
    rw [shapeError?_eq_none_iff, typesFor_length_iff, List.forall_mem_map]
    rfl
  rw [← and_assoc, ← hshape, ofRaw]
  split
  · next e he => simp [he]
  · next he => simp [he]

theorem exists_ofRaw_iff {raw : RawResult} :
    (∃ r, ofRaw raw = .ok r) ↔ raw.TypesFit ∧ raw.RowsFit := by
  simp only [ofRaw_eq_ok_iff, exists_and_left, exists_eq', and_true]

/-- **The types are looked at first.** -/
theorem ofRaw_of_not_typesFit {raw : RawResult} (h : ¬raw.TypesFit) :
    ofRaw raw = .error (.columnTypeMismatch raw.columns.length raw.columnTypes.length) := by
  obtain ⟨hsent, hlength⟩ := not_or.mp h
  have hne : ¬raw.columns.length = raw.columnTypes.length := fun heq => hlength heq.symm
  rw [ofRaw, typesFor_of_ne_nil hsent, shapeError?, if_neg hne]

/-- **Where the types fit, the first row that does not is named.** -/
theorem ofRaw_of_firstRagged {raw : RawResult} {index : Nat} {row : List Json} (types : raw.TypesFit)
    (h : raw.FirstRagged index row) :
    ofRaw raw = .error (.raggedRow index raw.columns.length row.length) := by
  have hragged : raggedRow? raw.columns.length 0 (raw.rows.map List.length) =
      some (.raggedRow (0 + index) raw.columns.length row.length) := by
    refine raggedRow?_of_first ?_ h.ragged ?_
    · rw [List.getElem?_map, h.there, Option.map_some]
    · intro i hi n hn
      rw [List.getElem?_map, Option.map_eq_some_iff] at hn
      obtain ⟨row', hrow', rfl⟩ := hn
      exact h.earlier i hi row' hrow'
  rw [Nat.zero_add] at hragged
  rw [ofRaw, shapeError?, if_pos (typesFor_length_iff.mpr types), hragged]

/-! ## What was taken in is a table -/

theorem shaped_of_ofRaw {raw : RawResult} {r : QueryResult} (h : ofRaw raw = .ok r) : r.Shaped := by
  obtain ⟨types, rows, rfl⟩ := ofRaw_eq_ok_iff.mp h
  refine ⟨(typesFor_length_iff.mpr types).symm, ?_⟩
  refine List.forall_mem_map.mpr fun row hrow => ?_
  rw [List.length_map]
  exact rows row hrow

/-- What was read was sent, and taken in. -/
theorem exists_raw_of_ofJson {v : Json} {r : QueryResult} (h : ofJson v = .ok r) :
    ∃ raw, RawResult.ofJson? v = some raw ∧ ofRaw raw = .ok r := by
  unfold ofJson at h
  split at h
  · simp at h
  · next raw hraw =>
      split at h
      · next r' hr' => exact ⟨raw, hraw, Except.ok.inj h ▸ hr'⟩
      · simp at h

theorem shaped_of_ofJson {v : Json} {r : QueryResult} (h : ofJson v = .ok r) : r.Shaped := by
  obtain ⟨raw, -, hraw⟩ := exists_raw_of_ofJson h
  exact shaped_of_ofRaw hraw

theorem shaped_of_read {text : String} {r : QueryResult} (h : read text = .ok r) : r.Shaped := by
  unfold read at h
  split at h
  · simp at h
  · exact shaped_of_ofJson h

end QueryResult

end QueryDesk
