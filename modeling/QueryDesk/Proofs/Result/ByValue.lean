import QueryDesk.Proofs.Result.Key
import QueryDesk.Proofs.Result.Pivot
import QueryDesk.Proofs.Chart.RowOrder

/-! # Numbers are grouped and counted by their values

Rows are gathered, and values are counted, by texts. In a column of numbers these texts tell apart exactly what is
different as a number (`Cell.key_eq_iff`), so a pivot is what it would be if the numbers themselves were compared
(`Pivot.IsPivotByValue`), and so is the count of different values (`keys_by_value`). Nulls may stand among the
numbers; columns of other values are told apart by their keys.
-/

set_option autoImplicit false

namespace QueryDesk

namespace Pivot

variable {p : Places} {rows : List (List Cell)}

/-! ## What cells are told apart by -/

/-- Whether every cell of a column is a number or null. -/
def isNumericColumn (rows : List (List Cell)) (index : Nat) : Bool :=
  rows.all fun row => (cellAt row index).isNumeric

/-- **What the cells of a column are told apart by**: in a column of numbers the number, of which the zeros are one,
and in any other column the key. -/
def valueAt (rows : List (List Cell)) (index : Nat) (row : List Cell) : Cell :=
  if isNumericColumn rows index then (cellAt row index).plainZero else .text (cellAt row index).key

theorem key_valueAt (rows : List (List Cell)) (index : Nat) (row : List Cell) :
    (valueAt rows index row).key = (cellAt row index).key := by
  unfold valueAt
  split
  · exact Cell.key_plainZero _
  · rfl

/-- In one column keys are the same where the values are. -/
theorem valueAt_eq_iff {index : Nat} {row row' : List Cell} (hrow : row ∈ rows) (hrow' : row' ∈ rows) :
    valueAt rows index row = valueAt rows index row' ↔ (cellAt row index).key = (cellAt row' index).key := by
  unfold valueAt
  split
  · next hcolumn =>
      have hnumeric := List.all_eq_true.mp hcolumn
      exact (Cell.key_eq_iff (hnumeric row hrow) (hnumeric row' hrow')).symm
  · rw [Cell.text.injEq]

/-- The values of the dimension cells of a row. -/
def groupValues (p : Places) (rows : List (List Cell)) (row : List Cell) : List Cell :=
  p.dimensions.map fun index => valueAt rows index row

/-- The value of the pivot cell of a row. -/
def pivotValue (p : Places) (rows : List (List Cell)) (row : List Cell) : Cell := valueAt rows p.pivot row

theorem map_key_groupValues (p : Places) (rows : List (List Cell)) (row : List Cell) :
    (groupValues p rows row).map Cell.key = groupKey p row := by
  simp [groupValues, groupKey, dimensionCells, key_valueAt]

theorem key_pivotValue (p : Places) (rows : List (List Cell)) (row : List Cell) :
    (pivotValue p rows row).key = pivotKey p row :=
  key_valueAt rows p.pivot row

theorem groupValues_eq_iff {row row' : List Cell} (hrow : row ∈ rows) (hrow' : row' ∈ rows) :
    groupValues p rows row = groupValues p rows row' ↔ groupKey p row = groupKey p row' := by
  simp [groupValues, groupKey, dimensionCells, List.map_inj_left, valueAt_eq_iff hrow hrow']

theorem pivotValue_eq_iff {row row' : List Cell} (hrow : row ∈ rows) (hrow' : row' ∈ rows) :
    pivotValue p rows row = pivotValue p rows row' ↔ pivotKey p row = pivotKey p row' :=
  valueAt_eq_iff hrow hrow'

/-- The groups by values, in the order of first appearance: one for every group by keys. -/
theorem exists_groupsByValue (p : Places) (rows : List (List Cell)) :
    ∃ groups : List (List Cell), groups.map (List.map Cell.key) = (Pivot.groups p rows).map Group.key ∧
      FirstAppearances (rows.map (groupValues p rows)) groups := by
  have hkeys := (gathering_groups p rows).keys
  -- every tuple of keys is that of the values of some row
  obtain ⟨groups, hgroups, hoccurs⟩ : ∃ groups : List (List Cell),
      groups.map (List.map Cell.key) = (Pivot.groups p rows).map Group.key ∧
        ∀ group ∈ groups, group ∈ rows.map (groupValues p rows) := by
    refine exists_map_eq fun key hkey => ?_
    obtain ⟨row, hrow, rfl⟩ := List.mem_map.mp ((hkeys.mem_iff key).mp hkey)
    exact ⟨_, List.mem_map_of_mem hrow, map_key_groupValues p rows row⟩
  have hmap : (rows.map (groupValues p rows)).map (List.map Cell.key) = rows.map (groupKey p) := by
    rw [List.map_map]
    exact List.map_congr_left fun row _ => map_key_groupValues p rows row
  refine ⟨groups, hgroups, ?_⟩
  rw [← hgroups, ← hmap] at hkeys
  -- values of rows are told by their keys, so they appear first where the keys do
  apply hkeys.of_map hoccurs
  intro a ha b hb heq
  obtain ⟨row, hrow, rfl⟩ := List.mem_map.mp ha
  obtain ⟨row', hrow', rfl⟩ := List.mem_map.mp hb
  rw [map_key_groupValues, map_key_groupValues] at heq
  exact (groupValues_eq_iff hrow hrow').mpr heq

/-- The pivot values in the order of their keys. -/
theorem exists_pivotValues (p : Places) (rows : List (List Cell)) :
    ∃ values : List Cell, values.map Cell.key = pivotKeys p rows ∧
      ∀ value, value ∈ values ↔ ∃ row ∈ rows, pivotValue p rows row = value := by
  obtain ⟨values, hvalues, hoccurs⟩ : ∃ values : List Cell, values.map Cell.key = pivotKeys p rows ∧
      ∀ value ∈ values, ∃ row ∈ rows, pivotValue p rows row = value := by
    refine exists_map_eq fun key hkey => ?_
    obtain ⟨row, hrow, rfl⟩ := mem_pivotKeys.mp hkey
    exact ⟨_, ⟨row, hrow, rfl⟩, key_pivotValue p rows row⟩
  refine ⟨values, hvalues, fun value => ⟨hoccurs value, ?_⟩⟩
  rintro ⟨row, hrow, rfl⟩
  -- its key is that of a value in the list, which is the same value
  have hkey : pivotKey p row ∈ values.map Cell.key := hvalues ▸ mem_pivotKeys.mpr ⟨row, hrow, rfl⟩
  obtain ⟨value, hmem, heq⟩ := List.mem_map.mp hkey
  obtain ⟨row', hrow', rfl⟩ := hoccurs value hmem
  rw [key_pivotValue] at heq
  rwa [← (pivotValue_eq_iff hrow' hrow).mpr heq]

/-! ## The pivot by values -/

/-- The dimension cells of the first of the rows with these values in their dimensions. -/
def firstCells (p : Places) (rows : List (List Cell)) (group : List Cell) : List Cell :=
  ((rows.find? fun row => groupValues p rows row = group).map (dimensionCells p)).getD []

/-- The value of the last of the rows with these values in their dimensions and this one in the pivot column, null
where there is none. -/
def lastCell (p : Places) (rows : List (List Cell)) (group : List Cell) (value : Cell) : Cell :=
  ((rows.findRev? fun row => groupValues p rows row = group ∧ pivotValue p rows row = value).map
    fun row => cellAt row p.value).getD .null

/-- **The table `w` is the pivot of `r` by values**, with a row for each of `groups` and a column for each of
`values`. -/
structure IsPivotByValue (r : QueryResult) (c : PivotConfig) (groups : List (List Cell)) (values : List Cell)
    (w : QueryResult) : Prop where
  /-- There is one row for every different tuple of dimension values, in the order of appearance. -/
  groups_inOrder : FirstAppearances (r.rows.map (groupValues (placesOf r c) r.rows)) groups
  /-- There is one column for every different pivot value, in the order of their keys. -/
  values_nodup : values.Nodup
  mem_values : ∀ value, value ∈ values ↔ ∃ row ∈ r.rows, pivotValue (placesOf r c) r.rows row = value
  values_increasing : values.Pairwise fun a b => a.key < b.key
  rows : w.rows = groups.map fun group =>
    firstCells (placesOf r c) r.rows group ++ values.map (lastCell (placesOf r c) r.rows group)
  /-- A column is named by the key of its value. -/
  columns : ∃ names, List.Forall₂ (Headed c.headerPattern) (values.map Cell.key) names ∧
    w.columns = dimensionNames r c ++ names

theorem firstDimensions_map_key {group : List Cell} (h : ∃ row ∈ rows, groupValues p rows row = group) :
    firstDimensions p rows (group.map Cell.key) = firstCells p rows group := by
  obtain ⟨row, hrow, rfl⟩ := h
  have hfirst : firstRow? p rows (groupKey p row) =
      rows.find? fun other => groupValues p rows other = groupValues p rows row :=
    find?_congr fun other hother => decide_eq_decide.mpr (groupValues_eq_iff hother hrow).symm
  rw [firstDimensions, map_key_groupValues, hfirst, firstCells]

theorem lastValue_map_key {group : List Cell} {value : Cell} (hg : ∃ row ∈ rows, groupValues p rows row = group)
    (hv : ∃ row ∈ rows, pivotValue p rows row = value) :
    lastValue p rows (group.map Cell.key) value.key = lastCell p rows group value := by
  obtain ⟨row, hrow, rfl⟩ := hg
  obtain ⟨row', hrow', rfl⟩ := hv
  have hlast : lastRow? p rows (groupKey p row) (pivotKey p row') = rows.findRev? fun other =>
      groupValues p rows other = groupValues p rows row ∧ pivotValue p rows other = pivotValue p rows row' :=
    findRev?_congr fun other hother => decide_eq_decide.mpr
      (and_congr (groupValues_eq_iff hother hrow) (pivotValue_eq_iff hother hrow')).symm
  rw [lastValue, map_key_groupValues, key_pivotValue, hlast, lastCell]

/-- **A pivot goes by values.** -/
theorem exists_isPivotByValue {r : QueryResult} {c : PivotConfig} (hp : c.pivotColumn ∈ r.columns)
    (hv : c.valueColumn ∈ r.columns) : ∃ groups values, IsPivotByValue r c groups values (r.pivot c) := by
  obtain ⟨groups, hgroups, hinOrder⟩ := exists_groupsByValue (placesOf r c) r.rows
  obtain ⟨values, hvalues, hmem⟩ := exists_pivotValues (placesOf r c) r.rows
  have hincreasing : values.Pairwise fun a b => a.key < b.key := by
    refine List.pairwise_map.mp ?_
    rw [hvalues]
    exact pairwise_pivotKeys _ _
  refine ⟨groups, values, ?_⟩
  exact {
    groups_inOrder := hinOrder
    values_nodup := hincreasing.imp fun hlt heq => absurd (heq ▸ hlt) (String.lt_irrefl _)
    mem_values := hmem
    values_increasing := hincreasing
    rows := by
      rw [QueryResult.pivot, places?_eq hp hv]
      show (pivotAt r c.headerPattern (placesOf r c)).rows = _
      rw [rows_pivotAt, ← hgroups, ← hvalues, List.map_map]
      refine List.map_congr_left fun group hgroup => ?_
      have hoccurs := List.mem_map.mp ((hinOrder.mem_iff group).mp hgroup)
      rw [Function.comp_apply, firstDimensions_map_key hoccurs, List.map_map]
      congr 1
      exact List.map_congr_left fun value hvalue => lastValue_map_key hoccurs ((hmem value).mp hvalue)
    columns := by
      refine ⟨_, forall₂_headed_iff.mpr rfl, ?_⟩
      rw [columns_pivot hp hv, ← hvalues] }

end Pivot

/-! ## Different values -/

/-- Among numbers and nulls as many different keys are counted as there are different numbers. -/
theorem uniqueCount_of_isNumeric {values : List Cell} (h : ∀ c ∈ values, c.isNumeric = true) :
    uniqueCount values = ((values.filter fun c => !c.isNull).map Cell.plainZero).toFinset.card := by
  have hkeys : ((values.filter fun c => !c.isNull).map Cell.key).toFinset =
      ((values.filter fun c => !c.isNull).map Cell.plainZero).toFinset.image Cell.key := by
    ext key
    simp [Cell.key_plainZero]
  rw [uniqueCount_eq_card, hkeys]
  -- no two of the numbers share a key
  apply Finset.card_image_of_injOn
  intro a ha b hb heq
  rw [Finset.mem_coe, List.mem_toFinset] at ha hb
  obtain ⟨c, hc, rfl⟩ := List.mem_map.mp ha
  obtain ⟨d, hd, rfl⟩ := List.mem_map.mp hb
  rw [Cell.key_plainZero, Cell.key_plainZero] at heq
  exact (Cell.key_eq_iff (h c (List.mem_filter.mp hc).1) (h d (List.mem_filter.mp hd).1)).mp heq

/-- **Numbers have the same key where they are equal**, so that both zeros have the key `0`; equal numbers are the
same but for the sign of a zero. So numbers are grouped by their values, are pivoted into columns by their values,
and are counted by their values. -/
theorem keys_by_value :
    (∀ x y : Double, x.isFinite = true → y.isFinite = true →
      ((Cell.number x).key = (Cell.number y).key ↔ x.compare? y = some .eq) ∧
        (x.plainZero = y.plainZero ↔ x.compare? y = some .eq)) ∧
    (∀ negative, (Cell.number (.zero negative)).key = "0") ∧
    (∀ (r : QueryResult) (c : PivotConfig), c.pivotColumn ∈ r.columns → c.valueColumn ∈ r.columns →
      ∃ groups values, Pivot.IsPivotByValue r c groups values (r.pivot c)) ∧
    ∀ (r : QueryResult) (selections : List Selection) (index : Nat) (name : String) (profile : Profile),
      profile? r selections index name = some profile →
      (∀ c ∈ r.columnValues index, c.isNumeric = true) →
      profile.uniqueCount =
        (((r.columnValues index).filter fun c => !c.isNull).map Cell.plainZero).toFinset.card := by
  refine ⟨fun x y hx hy => ?_, fun negative => ?_, fun r c hp hv => ?_, ?_⟩
  · have hequal := Double.compare?_eq_iff hx hy
    refine ⟨?_, hequal.symm⟩
    rw [hequal, ← Double.keyText_eq_iff hx hy]
    exact String.ofList_inj
  · exact congrArg String.ofList (Double.keyText_zero negative)
  · exact Pivot.exists_isPivotByValue hp hv
  · intro r selections index name profile hprofile hnumeric
    rw [← uniqueCount_of_isNumeric hnumeric]
    unfold profile? at hprofile
    dsimp only at hprofile
    split at hprofile
    · exact absurd hprofile (Option.some_ne_none _).symm
    · rw [← Option.some.inj hprofile]

/-- Soundings at both zeros, at a half, and at no depth, with two numbers written in different ways next to each
other. -/
def soundings : QueryResult where
  columns := ["depth", "dose", "reading"]
  columnTypes := []
  rows := [
    [.number (.zero true), .number (.ofNat (tenTo 15)), .text "a"],
    [.number (.ofRatio false 1 2), .number (.ofNat (tenTo 15 - 1)), .text "b"],
    [.number (.zero false), .number (.ofNat (tenTo 15 - 1)), .text "c"],
    [.null, .number (.ofNat (tenTo 15)), .text "d"]]
  rowCount := 4
  truncated := false
  executionTimeMs := 3

/-- A column for every dose. -/
def byDose : PivotConfig := ⟨"dose", "reading", ["depth"], none⟩

theorem keys_soundings :
    byDose.pivotColumn ∈ soundings.columns ∧ byDose.valueColumn ∈ soundings.columns ∧
      (∃ groups values, Pivot.IsPivotByValue soundings byDose groups values (soundings.pivot byDose)) ∧
      (soundings.pivot byDose).columns = ["depth", "1000000000000000", "999999999999999"] ∧
      (soundings.pivot byDose).rows = [
        [.number (.zero true), .text "a", .text "c"],
        [.number (.ofRatio false 1 2), .null, .text "b"],
        [.null, .text "d", .null]] ∧
      (Double.ofNat (tenTo 15)).isFinite = true ∧ (Double.ofNat (tenTo 15 - 1)).isFinite = true ∧
      (Double.ofNat (tenTo 15)).compare? (Double.ofNat (tenTo 15 - 1)) ≠ some .eq ∧
      (Cell.number (.ofNat (tenTo 15))).key ≠ (Cell.number (.ofNat (tenTo 15 - 1))).key ∧
      (∀ c ∈ soundings.columnValues 0, c.isNumeric = true) ∧
      ∃ profile, profile? soundings [] 0 "depth" = some profile ∧ profile.uniqueCount = 2 := by
  have hp : byDose.pivotColumn ∈ soundings.columns := by decide
  have hv : byDose.valueColumn ∈ soundings.columns := by decide
  have hx : (Double.ofNat (tenTo 15)).isFinite = true := by decide +kernel
  have hy : (Double.ofNat (tenTo 15 - 1)).isFinite = true := by decide +kernel
  have hdiffer : (Double.ofNat (tenTo 15)).compare? (Double.ofNat (tenTo 15 - 1)) ≠ some .eq := by
    decide +kernel
  have hnumeric : ∀ c ∈ soundings.columnValues 0, c.isNumeric = true := by decide +kernel
  obtain ⟨hkey, -, hpivot, hcount⟩ := keys_by_value
  refine ⟨hp, hv, hpivot _ _ hp hv, by decide +kernel, by decide +kernel, hx, hy, hdiffer,
    mt ((hkey _ _ hx hy).1).mp hdiffer, hnumeric, _, rfl, ?_⟩
  rw [hcount soundings [] 0 "depth" _ rfl hnumeric]
  decide +kernel

end QueryDesk
