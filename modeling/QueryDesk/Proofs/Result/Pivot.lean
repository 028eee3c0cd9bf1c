import QueryDesk.Result.Pivot
import QueryDesk.Proofs.Lists
import QueryDesk.Proofs.Calendar.Reading
import QueryDesk.Proofs.Result.Shape
import Mathlib.Data.List.Forall2
import Mathlib.Data.List.Induction
import Mathlib.Data.List.Nodup
import Mathlib.Data.String.Basic

/-! # What a pivot holds

A pivot is told from its rows without the groups that it is gathered in: one row for every different
tuple of dimension keys in the order of first appearance, one column for every different pivot key in
increasing order, under the name that `Headed` gives it, and in every cell the value of the last row with
both keys (`Pivot.IsPivotOf`). `pivot_isPivotOf` says that this is what `QueryResult.pivot` gives.
Gathering is followed row by row: `Gathered` is what is known of a group after some rows, and one row more
is one of three cases.
-/

set_option autoImplicit false

namespace QueryDesk.Pivot

/-! ## The cells of a pivot -/

/-- The first of the rows with a tuple of dimension keys. -/
def firstRow? (p : Places) (rows : List (List Cell)) (group : List String) : Option (List Cell) :=
  rows.find? fun row => groupKey p row = group

/-- The last of the rows with a tuple of dimension keys and a pivot key. -/
def lastRow? (p : Places) (rows : List (List Cell)) (group : List String) (key : String) :
    Option (List Cell) :=
  rows.findRev? fun row => groupKey p row = group ∧ pivotKey p row = key

/-- The dimension cells of the first row of a group. -/
def firstDimensions (p : Places) (rows : List (List Cell)) (group : List String) : List Cell :=
  ((firstRow? p rows group).map (dimensionCells p)).getD []

/-- The value of the last row with both keys, null where there is none. -/
def lastValue (p : Places) (rows : List (List Cell)) (group : List String) (key : String) : Cell :=
  ((lastRow? p rows group key).map fun row => cellAt row p.value).getD .null

theorem firstRow?_append_singleton (p : Places) (rows : List (List Cell)) (row : List Cell)
    (group : List String) :
    firstRow? p (rows ++ [row]) group =
      (firstRow? p rows group).or (if groupKey p row = group then some row else none) := by
  simp [firstRow?, List.find?_append, List.find?_singleton]

theorem lastRow?_append_singleton (p : Places) (rows : List (List Cell)) (row : List Cell)
    (group : List String) (key : String) :
    lastRow? p (rows ++ [row]) group key =
      if groupKey p row = group ∧ pivotKey p row = key then some row
      else lastRow? p rows group key := by
  simp only [lastRow?, List.findRev?_eq_find?_reverse, List.reverse_append, List.reverse_singleton,
    List.singleton_append, List.find?_cons]
  split
  · next h => rw [if_pos (of_decide_eq_true h)]
  · next h => rw [if_neg (of_decide_eq_false h)]

/-- A cell is null where there is no row for it, and where the last row for it has null. -/
theorem lastValue_eq_null_iff (p : Places) (rows : List (List Cell)) (group : List String)
    (key : String) :
    lastValue p rows group key = .null ↔
      (∀ row ∈ rows, groupKey p row = group → pivotKey p row ≠ key) ∨
        ∃ row, lastRow? p rows group key = some row ∧ cellAt row p.value = .null := by
  have hnone : lastRow? p rows group key = none ↔
      ∀ row ∈ rows, groupKey p row = group → pivotKey p row ≠ key := by
    simp [lastRow?]
  rw [lastValue, ← hnone]
  cases lastRow? p rows group key <;> simp

/-! ## Gathering rows into groups -/

/-- **What a group holds after some rows**: the dimension cells of the first of its rows, and for
every pivot key the value of the last. -/
structure Gathered (p : Places) (rows : List (List Cell)) (g : Group) : Prop where
  dimensions : (firstRow? p rows g.key).map (dimensionCells p) = some g.dimensions
  values : ∀ key, g.values.lookup key =
    (lastRow? p rows g.key key).map fun row => cellAt row p.value

/-- A row of another group leaves a group as it is. -/
theorem Gathered.other {p : Places} {rows : List (List Cell)} {row : List Cell} {g : Group}
    (h : Gathered p rows g) (hne : g.key ≠ groupKey p row) : Gathered p (rows ++ [row]) g where
  dimensions := by
    rw [firstRow?_append_singleton, if_neg (Ne.symm hne), Option.or_none]
    exact h.dimensions
  values key := by
    rw [lastRow?_append_singleton, if_neg fun hboth => hne hboth.1.symm]
    exact h.values key

/-- A row of the group itself puts its value in front. -/
theorem Gathered.same {p : Places} {rows : List (List Cell)} {row : List Cell} {g : Group}
    (h : Gathered p rows g) (heq : g.key = groupKey p row) :
    Gathered p (rows ++ [row])
      { g with values := (pivotKey p row, cellAt row p.value) :: g.values } where
  dimensions := by
    obtain ⟨first, hfirst, hdims⟩ := Option.map_eq_some_iff.mp h.dimensions
    show (firstRow? p (rows ++ [row]) g.key).map (dimensionCells p) = some g.dimensions
    rw [firstRow?_append_singleton, hfirst, Option.some_or, Option.map_some, hdims]
  values key := by
    show ((pivotKey p row, cellAt row p.value) :: g.values).lookup key =
      (lastRow? p (rows ++ [row]) g.key key).map fun row => cellAt row p.value
    rw [lastRow?_append_singleton, List.lookup_cons]
    by_cases hkey : pivotKey p row = key
    · rw [if_pos ⟨heq.symm, hkey⟩, hkey, beq_self_eq_true]
      rfl
    · rw [if_neg fun hboth => hkey hboth.2, beq_eq_false_iff_ne.mpr (Ne.symm hkey)]
      exact h.values key

/-- A row of a group that is not there yet begins it. -/
theorem gathered_first {p : Places} {rows : List (List Cell)} {row : List Cell}
    (hnew : ∀ r ∈ rows, groupKey p r ≠ groupKey p row) :
    Gathered p (rows ++ [row])
      ⟨groupKey p row, dimensionCells p row, [(pivotKey p row, cellAt row p.value)]⟩ where
  dimensions := by
    have hnone : firstRow? p rows (groupKey p row) = none := by simpa [firstRow?] using hnew
    rw [firstRow?_append_singleton, hnone, if_pos rfl, Option.none_or, Option.map_some]
  values key := by
    have hnone : lastRow? p rows (groupKey p row) key = none := by
      simp only [lastRow?, List.findRev?_eq_find?_reverse, List.find?_eq_none, List.mem_reverse,
        decide_eq_true_eq, not_and]
      exact fun r hr heq => absurd heq (hnew r hr)
    rw [lastRow?_append_singleton, hnone, List.lookup_cons]
    by_cases hkey : pivotKey p row = key
    · rw [if_pos ⟨rfl, hkey⟩, hkey, beq_self_eq_true]
      rfl
    · rw [if_neg fun hboth => hkey hboth.2, beq_eq_false_iff_ne.mpr (Ne.symm hkey)]
      rfl

/-- The keys of the groups after one row more. -/
theorem map_key_addRow (p : Places) (row : List Cell) (gs : List Group) :
    (addRow p row gs).map Group.key =
      if groupKey p row ∈ gs.map Group.key then gs.map Group.key
      else gs.map Group.key ++ [groupKey p row] := by
  induction gs with
  | nil => simp [addRow]
  | cons g rest ih =>
      by_cases heq : g.key = groupKey p row
      · simp [addRow, heq]
      · rw [addRow, if_neg heq, List.map_cons, ih, List.map_cons]
        by_cases hmem : groupKey p row ∈ rest.map Group.key
        · rw [if_pos hmem, if_pos (List.mem_cons_of_mem _ hmem)]
        · have hnot : groupKey p row ∉ g.key :: rest.map Group.key := by
            rw [List.mem_cons, not_or]
            exact ⟨Ne.symm heq, hmem⟩
          rw [if_neg hmem, if_neg hnot, List.cons_append]

/-- Every group after one row more, by the place where the row went. -/
theorem gathered_addRow {p : Places} {rows : List (List Cell)} {row : List Cell} {gs : List Group}
    (hkeys : (gs.map Group.key).Nodup) (each : ∀ g ∈ gs, Gathered p rows g)
    (hnew : groupKey p row ∉ gs.map Group.key → ∀ r ∈ rows, groupKey p r ≠ groupKey p row) :
    ∀ g ∈ addRow p row gs, Gathered p (rows ++ [row]) g := by
  induction gs with
  | nil =>
      intro g hg
      rw [List.mem_singleton.mp hg]
      exact gathered_first (hnew List.not_mem_nil)
  | cons first rest ih =>
      rw [List.map_cons, List.nodup_cons] at hkeys
      rw [List.forall_mem_cons] at each
      by_cases heq : first.key = groupKey p row
      · rw [addRow, if_pos heq, List.forall_mem_cons]
        refine ⟨each.1.same heq, fun g hg => (each.2 g hg).other fun hkey => hkeys.1 ?_⟩
        rw [heq, ← hkey]
        exact List.mem_map_of_mem hg
      · rw [addRow, if_neg heq, List.forall_mem_cons]
        refine ⟨each.1.other heq, ih hkeys.2 each.2 fun hrest => hnew ?_⟩
        rw [List.map_cons, List.mem_cons, not_or]
        exact ⟨Ne.symm heq, hrest⟩

/-- **All groups after some rows**: their keys in the order of first appearance, each with what it
holds. -/
structure Gathering (p : Places) (rows : List (List Cell)) (gs : List Group) : Prop where
  keys : FirstAppearances (rows.map (groupKey p)) (gs.map Group.key)
  each : ∀ g ∈ gs, Gathered p rows g

theorem Gathering.addRow {p : Places} {rows : List (List Cell)} {gs : List Group}
    (h : Gathering p rows gs) (row : List Cell) : Gathering p (rows ++ [row]) (addRow p row gs) where
  keys := by
    rw [map_key_addRow, List.map_append, List.map_singleton]
    split
    · next hmem => exact h.keys.append_mem hmem
    · next hmem => exact h.keys.append_new hmem
  each := by
    refine gathered_addRow h.keys.nodup h.each fun hnot r hr heq => hnot ?_
    rw [h.keys.mem_iff, ← heq]
    exact List.mem_map_of_mem hr

/-- **Rows are gathered as `Gathering` says**, by induction on the rows from behind. -/
theorem gathering_groups (p : Places) (rows : List (List Cell)) : Gathering p rows (groups p rows) := by
  induction rows using List.reverseRecOn with
  | nil => exact ⟨firstAppearances_nil, List.forall_mem_nil _⟩
  | append_singleton rows row ih =>
      rw [groups, List.foldl_append]
      exact ih.addRow row

theorem Gathered.value_eq {p : Places} {rows : List (List Cell)} {g : Group}
    (h : Gathered p rows g) (key : String) : g.value key = lastValue p rows g.key key := by
  rw [Group.value, h.values, lastValue]

theorem Gathered.dimensions_eq {p : Places} {rows : List (List Cell)} {g : Group}
    (h : Gathered p rows g) : g.dimensions = firstDimensions p rows g.key := by
  rw [firstDimensions, h.dimensions, Option.getD_some]

/-! ## Pivot keys in order -/

theorem mem_insertKey {key k : String} {keys : List String} :
    k ∈ insertKey key keys ↔ k = key ∨ k ∈ keys := by
  induction keys with
  | nil => simp [insertKey]
  | cons first rest ih =>
      rw [insertKey]
      split
      · exact List.mem_cons
      · split
        · next heq => simp [heq]
        · simp only [List.mem_cons, ih]
          exact or_left_comm

theorem pairwise_insertKey {key : String} {keys : List String} (h : keys.Pairwise (· < ·)) :
    (insertKey key keys).Pairwise (· < ·) := by
  induction keys with
  | nil => exact List.pairwise_singleton _ _
  | cons first rest ih =>
      have hrest := List.pairwise_cons.mp h
      rw [insertKey]
      split
      · next hlt =>
          refine List.pairwise_cons.mpr ⟨?_, h⟩
          intro k hk
          rcases List.mem_cons.mp hk with rfl | hk
          · exact hlt
          · exact String.lt_trans hlt (hrest.1 k hk)
      · next hge =>
          split
          · exact h
          · next hne =>
              have hgt : first < key := lt_of_le_of_ne (String.not_lt.mp hge) (Ne.symm hne)
              refine List.pairwise_cons.mpr ⟨?_, ih hrest.2⟩
              intro k hk
              rcases mem_insertKey.mp hk with rfl | hk
              · exact hgt
              · exact hrest.1 k hk

theorem pairwise_pivotKeys (p : Places) (rows : List (List Cell)) :
    (pivotKeys p rows).Pairwise (· < ·) := by
  induction rows using List.reverseRecOn with
  | nil => exact List.Pairwise.nil
  | append_singleton rows row ih =>
      rw [pivotKeys, List.foldl_append]
      exact pairwise_insertKey ih

theorem mem_pivotKeys {p : Places} {rows : List (List Cell)} {key : String} :
    key ∈ pivotKeys p rows ↔ ∃ row ∈ rows, pivotKey p row = key := by
  induction rows using List.reverseRecOn with
  | nil => simp [pivotKeys]
  | append_singleton rows row ih =>
      rw [pivotKeys, List.foldl_append, List.foldl_cons, List.foldl_nil, mem_insertKey]
      show key = pivotKey p row ∨ key ∈ pivotKeys p rows ↔ _
      rw [ih]
      constructor
      · rintro (rfl | ⟨r, hr, rfl⟩)
        · exact ⟨row, List.mem_append_right _ List.mem_cons_self, rfl⟩
        · exact ⟨r, List.mem_append_left _ hr, rfl⟩
      · rintro ⟨r, hr, rfl⟩
        rcases List.mem_append.mp hr with hr | hr
        · exact Or.inr ⟨r, hr, rfl⟩
        · exact Or.inl (congrArg _ (List.mem_singleton.mp hr))

/-! ## The names of the columns -/

/-- **What the column for a pivot key is named.** Where there is a pattern and the key begins like a date, the
name is the moment that the key stands for, as the pattern asks for it. A key that only looks like a date is
its own name, and so is any other key, also one with blanks in front of a date, and every key where there is
no pattern. -/
inductive Headed : Option String → String → String → Prop
  | plain {key : String} : Headed none key key
  | undated {pattern key : String} (h : ¬BeginsLikeDate key.toList) : Headed (some pattern) key key
  | unread {pattern key : String} (h : BeginsLikeDate key.toList)
      (hread : parseDateLike? key.toList = none) : Headed (some pattern) key key
  | dated {pattern key : String} {m : Moment} (h : BeginsLikeDate key.toList)
      (hread : parseDateLike? key.toList = some m) : Headed (some pattern) key (m.format pattern)

theorem header_of_begins {key : String} (h : BeginsLikeDate key.toList) (pattern : String) :
    header (some pattern) key = ((parseDateLike? key.toList).map fun m => m.format pattern).getD key := by
  rw [header, if_pos (looksLikeDate_iff.mpr h), reformatDate?]

theorem header_of_not_begins {key : String} (h : ¬BeginsLikeDate key.toList) (pattern : String) :
    header (some pattern) key = key := by
  rw [header, if_neg (mt looksLikeDate_iff.mp h)]

/-- **The header of a key is its name**, and it has no other. -/
theorem headed_iff {pattern : Option String} {key name : String} :
    Headed pattern key name ↔ header pattern key = name := by
  constructor
  · intro h
    cases h with
    | plain => rfl
    | undated h => exact header_of_not_begins h _
    | unread h hread =>
        rw [header_of_begins h, hread]
        rfl
    | dated h hread =>
        rw [header_of_begins h, hread]
        rfl
  · rintro rfl
    cases pattern with
    | none => exact .plain
    | some pattern =>
        by_cases h : BeginsLikeDate key.toList
        · rw [header_of_begins h]
          cases hread : parseDateLike? key.toList with
          | none => exact .unread h hread
          | some m => exact .dated h hread
        · rw [header_of_not_begins h]
          exact .undated h

/-- The names of columns are told by their keys. -/
theorem forall₂_headed_iff {pattern : Option String} {keys names : List String} :
    List.Forall₂ (Headed pattern) keys names ↔ keys.map (header pattern) = names := by
  have heq : Headed pattern = fun key name => header pattern key = name := by
    funext key name
    exact propext headed_iff
  rw [heq, ← List.forall₂_map_left_iff, List.forall₂_eq_eq_eq]

/-! ## The pivot -/

/-- The dimension names that are there, in the order of the configuration. -/
def dimensionNames (r : QueryResult) (c : PivotConfig) : List String :=
  c.dimensionColumns.filter fun name => name ∈ r.columns

/-- Where the columns are by their names, of each name the first. -/
def placesOf (r : QueryResult) (c : PivotConfig) : Places where
  pivot := r.columns.idxOf c.pivotColumn
  value := r.columns.idxOf c.valueColumn
  dimensions := (dimensionNames r c).map r.columns.idxOf

/-- **The table `w` is the pivot of `r`**, with a row for each of `groups` and a column for each of
`keys`. -/
structure IsPivotOf (r : QueryResult) (c : PivotConfig) (groups : List (List String))
    (keys : List String) (w : QueryResult) : Prop where
  /-- There is one row for every different tuple of dimension keys, in the order of appearance. -/
  groups_inOrder : FirstAppearances (r.rows.map (groupKey (placesOf r c))) groups
  /-- There is one column for every different pivot key, in strictly increasing order. -/
  keys_increasing : keys.Pairwise (· < ·)
  mem_keys : ∀ key, key ∈ keys ↔ ∃ row ∈ r.rows, pivotKey (placesOf r c) row = key
  /-- A row has the dimension cells of the first row of its group, and for every pivot key the value
  of the last row with both. -/
  rows : w.rows = groups.map fun group =>
    firstDimensions (placesOf r c) r.rows group ++ keys.map (lastValue (placesOf r c) r.rows group)
  /-- Behind the names of the dimensions every pivot key has its own, in the same order. -/
  columns : ∃ names, List.Forall₂ (Headed c.headerPattern) keys names ∧
    w.columns = dimensionNames r c ++ names
  columnTypes : w.columnTypes =
    ((placesOf r c).dimensions ++ keys.map fun _ => (placesOf r c).value).map fun index =>
      r.columnTypes[index]?.getD ""
  /-- There is a type for every column and a cell for every column in every row. -/
  columnTypes_length : w.columnTypes.length = w.columns.length
  row_length : ∀ row ∈ w.rows, row.length = w.columns.length
  rowCount : w.rowCount = UInt64.ofNat w.rows.length
  truncated : w.truncated = r.truncated
  executionTimeMs : w.executionTimeMs = r.executionTimeMs

theorem columnIndex?_of_mem {r : QueryResult} {name : String} (h : name ∈ r.columns) :
    r.columnIndex? name = some (r.columns.idxOf name) :=
  List.findIdx?_eq_some_iff_findIdx_eq.mpr ⟨List.idxOf_lt_length_of_mem h, rfl⟩

theorem columnIndex?_of_not_mem {r : QueryResult} {name : String} (h : name ∉ r.columns) :
    r.columnIndex? name = none := by
  rw [QueryResult.columnIndex?, List.findIdx?_eq_none_iff]
  intro c hc
  exact beq_eq_false_iff_ne.mpr fun heq => h (heq ▸ hc)

theorem places?_eq {r : QueryResult} {c : PivotConfig} (hp : c.pivotColumn ∈ r.columns)
    (hv : c.valueColumn ∈ r.columns) : places? r c = some (placesOf r c) := by
  have hdims : ∀ names : List String, names.filterMap r.columnIndex? =
      (names.filter fun name => name ∈ r.columns).map r.columns.idxOf := by
    intro names
    induction names with
    | nil => rfl
    | cons name rest ih =>
        by_cases hmem : name ∈ r.columns
        · simp [columnIndex?_of_mem hmem, hmem, ih]
        · simp [columnIndex?_of_not_mem hmem, hmem, ih]
  rw [places?, columnIndex?_of_mem hp, columnIndex?_of_mem hv, hdims]
  rfl

/-- The columns at the places of the dimensions are those of their names. -/
theorem map_columns_dimensions (r : QueryResult) (c : PivotConfig) :
    (placesOf r c).dimensions.map (fun index => r.columns[index]?.getD "") = dimensionNames r c := by
  show ((dimensionNames r c).map r.columns.idxOf).map _ = _
  rw [List.map_map]
  refine (List.map_congr_left fun name hname => ?_).trans (List.map_id _)
  have hmem : name ∈ r.columns := of_decide_eq_true (List.mem_filter.mp hname).2
  have hlt := List.idxOf_lt_length_of_mem hmem
  show r.columns[r.columns.idxOf name]?.getD "" = name
  rw [List.getElem?_eq_getElem hlt, Option.getD_some, List.getElem_idxOf]

/-- A group that occurs shows the dimension cells of one of its rows. -/
theorem exists_firstDimensions_eq {p : Places} {rows : List (List Cell)} {group : List String}
    (h : ∃ row ∈ rows, groupKey p row = group) :
    ∃ first, groupKey p first = group ∧ firstDimensions p rows group = dimensionCells p first := by
  obtain ⟨row, hrow, hkey⟩ := h
  have hsome : (firstRow? p rows group).isSome :=
    List.find?_isSome.mpr ⟨row, hrow, decide_eq_true hkey⟩
  obtain ⟨first, hfirst⟩ := Option.isSome_iff_exists.mp hsome
  have hgroup : decide (groupKey p first = group) = true :=
    List.find?_some (p := fun row => decide (groupKey p row = group)) hfirst
  refine ⟨first, of_decide_eq_true hgroup, ?_⟩
  rw [firstDimensions, hfirst, Option.map_some, Option.getD_some]

theorem firstDimensions_length {p : Places} {rows : List (List Cell)} {group : List String}
    (h : ∃ row ∈ rows, groupKey p row = group) :
    (firstDimensions p rows group).length = p.dimensions.length := by
  obtain ⟨first, -, hfirst⟩ := exists_firstDimensions_eq h
  rw [hfirst, dimensionCells, List.length_map]

/-- The rows of a pivot, without the groups they were gathered in. -/
theorem rows_pivotAt (r : QueryResult) (pattern : Option String) (p : Places) :
    (pivotAt r pattern p).rows = ((groups p r.rows).map Group.key).map fun group =>
      firstDimensions p r.rows group ++ (pivotKeys p r.rows).map (lastValue p r.rows group) := by
  show (groups p r.rows).map _ = _
  rw [List.map_map]
  refine List.map_congr_left fun g hg => ?_
  have hgathered := (gathering_groups p r.rows).each g hg
  show g.dimensions ++ (pivotKeys p r.rows).map g.value = _
  rw [hgathered.dimensions_eq, funext hgathered.value_eq]
  rfl

/-! ## The shape of a pivot -/

theorem Gathered.dimensions_length {p : Places} {rows : List (List Cell)} {g : Group}
    (h : Gathered p rows g) : g.dimensions.length = p.dimensions.length := by
  obtain ⟨row, -, hdims⟩ := Option.map_eq_some_iff.mp h.dimensions
  rw [← hdims, dimensionCells, List.length_map]

/-- **A pivot has the shape of a table**, whatever the shape of what is pivoted. -/
theorem shaped_pivotAt (r : QueryResult) (pattern : Option String) (p : Places) :
    (pivotAt r pattern p).Shaped where
  columnTypes := by simp [pivotAt]
  rows := by
    intro row hrow
    obtain ⟨g, hg, rfl⟩ := List.mem_map.mp hrow
    have hdims := ((gathering_groups p r.rows).each g hg).dimensions_length
    show (g.dimensions ++ (pivotKeys p r.rows).map g.value).length =
      (p.dimensions.map (fun i => r.columns[i]?.getD "") ++
        (pivotKeys p r.rows).map (header pattern)).length
    simp only [List.length_append, List.length_map, hdims]

/-- Pivoting leaves a table a table, also where nothing is pivoted. -/
theorem shaped_pivot {r : QueryResult} (hr : r.Shaped) (c : PivotConfig) : (r.pivot c).Shaped := by
  unfold QueryResult.pivot
  split
  · exact shaped_pivotAt r c.headerPattern _
  · exact hr

theorem columns_pivot {r : QueryResult} {c : PivotConfig} (hp : c.pivotColumn ∈ r.columns)
    (hv : c.valueColumn ∈ r.columns) :
    (r.pivot c).columns =
      dimensionNames r c ++ (pivotKeys (placesOf r c) r.rows).map (header c.headerPattern) := by
  rw [QueryResult.pivot, places?_eq hp hv, ← map_columns_dimensions]
  rfl

/-- **A pivot whose names tell its columns apart**: no dimension is there twice, different pivot keys have
different headers, and no header is the name of a dimension. -/
structure HeadersDiffer (r : QueryResult) (c : PivotConfig) : Prop where
  dimensions : (dimensionNames r c).Nodup
  headers : ∀ row ∈ r.rows, ∀ row' ∈ r.rows,
    header c.headerPattern (pivotKey (placesOf r c) row) =
      header c.headerPattern (pivotKey (placesOf r c) row') →
    pivotKey (placesOf r c) row = pivotKey (placesOf r c) row'
  apart : ∀ row ∈ r.rows,
    header c.headerPattern (pivotKey (placesOf r c) row) ∉ dimensionNames r c

theorem mem_map_header {r : QueryResult} {c : PivotConfig} {name : String} :
    name ∈ (pivotKeys (placesOf r c) r.rows).map (header c.headerPattern) ↔
      ∃ row ∈ r.rows, header c.headerPattern (pivotKey (placesOf r c) row) = name := by
  simp only [List.mem_map, mem_pivotKeys]
  constructor
  · rintro ⟨_, ⟨row, hrow, rfl⟩, hname⟩
    exact ⟨row, hrow, hname⟩
  · rintro ⟨row, hrow, hname⟩
    exact ⟨_, ⟨row, hrow, rfl⟩, hname⟩

theorem nodup_columns_pivot_iff {r : QueryResult} {c : PivotConfig} (hp : c.pivotColumn ∈ r.columns)
    (hv : c.valueColumn ∈ r.columns) : (r.pivot c).columns.Nodup ↔ HeadersDiffer r c := by
  have hnodup : (pivotKeys (placesOf r c) r.rows).Nodup :=
    (pairwise_pivotKeys (placesOf r c) r.rows).imp fun hlt => ne_of_lt hlt
  rw [columns_pivot hp hv, List.nodup_append, List.nodup_map_iff_inj_on hnodup]
  constructor
  · rintro ⟨hdims, hinj, hdisjoint⟩
    exact
      { dimensions := hdims
        headers := fun row hrow row' hrow' =>
          hinj _ (mem_pivotKeys.mpr ⟨row, hrow, rfl⟩) _ (mem_pivotKeys.mpr ⟨row', hrow', rfl⟩)
        apart := fun row hrow hmem =>
          hdisjoint _ hmem _ (mem_map_header.mpr ⟨row, hrow, rfl⟩) rfl }
  · intro h
    refine ⟨h.dimensions, ?_, ?_⟩
    · intro key hkey key' hkey' heq
      obtain ⟨row, hrow, rfl⟩ := mem_pivotKeys.mp hkey
      obtain ⟨row', hrow', rfl⟩ := mem_pivotKeys.mp hkey'
      exact h.headers row hrow row' hrow' heq
    · rintro name hname _ hheader rfl
      obtain ⟨row, hrow, rfl⟩ := mem_map_header.mp hheader
      exact h.apart row hrow hname

/-- **There is only one pivot of a table.** -/
theorem IsPivotOf.unique {r w w' : QueryResult} {c : PivotConfig} {groups groups' : List (List String)}
    {keys keys' : List String} (h : IsPivotOf r c groups keys w)
    (h' : IsPivotOf r c groups' keys' w') : w = w' := by
  have hgroups : groups = groups' := h.groups_inOrder.unique h'.groups_inOrder
  have hkeys : keys = keys' :=
    eq_of_pairwise_of_mem_iff (fun _ _ => String.lt_asymm) h.keys_increasing h'.keys_increasing
      fun key => (h.mem_keys key).trans (h'.mem_keys key).symm
  subst hgroups hkeys
  have hrows : w.rows = w'.rows := h.rows.trans h'.rows.symm
  have hcolumns : w.columns = w'.columns := by
    obtain ⟨names, hnames, hw⟩ := h.columns
    obtain ⟨names', hnames', hw'⟩ := h'.columns
    rw [hw, hw', ← forall₂_headed_iff.mp hnames, ← forall₂_headed_iff.mp hnames']
  have hcount : w.rowCount = w'.rowCount := by rw [h.rowCount, h'.rowCount, hrows]
  cases w
  cases w'
  rw [QueryResult.mk.injEq]
  exact ⟨hcolumns, h.columnTypes.trans h'.columnTypes.symm, hrows, hcount,
    h.truncated.trans h'.truncated.symm, h.executionTimeMs.trans h'.executionTimeMs.symm⟩

/-- **A pivot is what its rows say.** Where the pivot and the value column are there, the pivot has a
row for every different tuple of dimension keys and a column for every different pivot key, and in
every cell the value of the last row with both keys; a cell is null exactly where no row has them or
the last one has null. Rows may be too short or too long for the header. -/
theorem pivot_isPivotOf (r : QueryResult) (c : PivotConfig) (hp : c.pivotColumn ∈ r.columns)
    (hv : c.valueColumn ∈ r.columns) :
    ∃ groups keys, IsPivotOf r c groups keys (r.pivot c) ∧
      ∀ group key, lastValue (placesOf r c) r.rows group key = .null ↔
        (∀ row ∈ r.rows, groupKey (placesOf r c) row = group → pivotKey (placesOf r c) row ≠ key) ∨
          ∃ row, lastRow? (placesOf r c) r.rows group key = some row ∧
            cellAt row (placesOf r c).value = .null := by
  set p := placesOf r c with hplaces
  have hpivot : r.pivot c = pivotAt r c.headerPattern p := by
    rw [QueryResult.pivot, places?_eq hp hv]
  have hgathering := gathering_groups p r.rows
  have hlength : (pivotAt r c.headerPattern p).columns.length =
      p.dimensions.length + (pivotKeys p r.rows).length := by
    simp [pivotAt]
  refine ⟨(groups p r.rows).map Group.key, pivotKeys p r.rows, ?_, lastValue_eq_null_iff p r.rows⟩
  rw [hpivot]
  exact {
    groups_inOrder := hgathering.keys
    keys_increasing := pairwise_pivotKeys p r.rows
    mem_keys := fun key => mem_pivotKeys
    rows := rows_pivotAt r c.headerPattern p
    columns := by
      refine ⟨_, forall₂_headed_iff.mpr rfl, ?_⟩
      rw [← map_columns_dimensions]
      rfl
    columnTypes := by
      rw [List.map_append, List.map_map]
      rfl
    columnTypes_length := by simp [pivotAt]
    row_length := by
      intro row hrow
      rw [rows_pivotAt] at hrow
      obtain ⟨group, hgroup, rfl⟩ := List.mem_map.mp hrow
      have hfirst := List.mem_map.mp ((hgathering.keys.mem_iff group).mp hgroup)
      rw [hlength, List.length_append, firstDimensions_length hfirst, List.length_map]
    rowCount := rfl
    truncated := rfl
    executionTimeMs := rfl }

/-- Sales by region and day, with rows that are too short and too long, and a day that is none. -/
def sales : QueryResult where
  columns := ["region", "day", "note"]
  columnTypes := ["text"]
  rows := [
    [.text "north", .text "2024-03-01", .text "a"],
    [.text "south", .text "2024-13-45"],
    [.text "north", .text "2024-13-45", .text "b", .null],
    [.text "north", .text "2024-03-01", .text "c"],
    []]
  rowCount := 5
  truncated := true
  executionTimeMs := 7

/-- A column for every day, named after its month, with a region that is named twice and a name that is not
there. -/
def byDay : PivotConfig := ⟨"day", "note", ["region", "shop", "region"], some "MMM yyyy"⟩

/-- A key that stands for a day is written as the pattern asks for it, one that only looks like a day stays, and
so does one that is no day. -/
theorem pivot_sales :
    byDay.pivotColumn ∈ sales.columns ∧ byDay.valueColumn ∈ sales.columns ∧
      (∃ groups keys, IsPivotOf sales byDay groups keys (sales.pivot byDay)) ∧
      (sales.pivot byDay).columns = ["region", "region", "Mar 2024", "2024-13-45", "null"] ∧
      (sales.pivot byDay).rows = [
        [.text "north", .text "north", .text "c", .text "b", .null],
        [.text "south", .text "south", .null, .null, .null],
        [.null, .null, .null, .null, .null]] := by
  have hp : byDay.pivotColumn ∈ sales.columns := by decide
  have hv : byDay.valueColumn ∈ sales.columns := by decide
  obtain ⟨groups, keys, hpivot, -⟩ := pivot_isPivotOf sales byDay hp hv
  exact ⟨hp, hv, ⟨groups, keys, hpivot⟩, by decide +kernel, by decide +kernel⟩

end QueryDesk.Pivot
