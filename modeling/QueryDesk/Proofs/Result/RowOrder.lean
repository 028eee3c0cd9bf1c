import QueryDesk.Proofs.Lists
import QueryDesk.Proofs.Result.Pivot
import Mathlib.Data.List.Perm.Basic

/-! # A pivot and the order of its rows

A pivot depends on the order of the rows only where two rows agree in all their keys. Rows that are rearranged
so that such rows keep their order (`KeepsOrder`) give a pivot with the same columns; its rows may stand in
another order, and a group may show the dimension cells of another of its rows, which have the same keys
(`SameUpToOrder`). Every cell is told by the rows with both of its keys alone, and these stay in their order
(`KeepsOrder.filter_eq`).
-/

set_option autoImplicit false

namespace QueryDesk

/-! ## Rearranging items -/

section KeepsOrder

variable {α κ : Type} {key : α → κ} {items reordered : List α}

/-- **Items are rearranged so that those with the same key keep their order**: each goes with the place that it
had, and of two with the same key the one with the lower place comes first. -/
def KeepsOrder (key : α → κ) (items reordered : List α) : Prop :=
  ∃ placed : List (α × Nat), placed.Perm items.zipIdx ∧ placed.map Prod.fst = reordered ∧
    placed.Pairwise fun a b => key a.1 = key b.1 → a.2 < b.2

theorem KeepsOrder.perm (h : KeepsOrder key items reordered) : reordered.Perm items := by
  obtain ⟨placed, hperm, rfl, -⟩ := h
  have hfst := hperm.map Prod.fst
  rw [List.zipIdx_map_fst] at hfst
  exact hfst

/-- The places of items rise. -/
theorem pairwise_zipIdx (items : List α) : items.zipIdx.Pairwise fun a b => a.2 < b.2 := by
  refine List.pairwise_map.mp ?_
  rw [List.zipIdx_map_snd]
  exact List.pairwise_lt_range'

/-- The items with one key stay as they were. -/
theorem KeepsOrder.filter_eq [DecidableEq κ] (h : KeepsOrder key items reordered) (k : κ) :
    (reordered.filter fun a => key a = k) = items.filter fun a => key a = k := by
  obtain ⟨placed, hperm, rfl, horder⟩ := h
  let chosen : α × Nat → Bool := fun a => key a.1 = k
  have hplaced : (placed.filter chosen).Pairwise fun a b => a.2 < b.2 := by
    refine (horder.filter chosen).imp_of_mem fun {a b} ha hb hlt => hlt ?_
    rw [of_decide_eq_true (List.mem_filter.mp ha).2, of_decide_eq_true (List.mem_filter.mp hb).2]
  -- both hold the same items in the order of their places
  have heq : placed.filter chosen = items.zipIdx.filter chosen :=
    eq_of_pairwise_of_mem_iff (fun _ _ => Nat.lt_asymm) hplaced ((pairwise_zipIdx items).filter chosen)
      fun _ => (hperm.filter chosen).mem_iff
  calc (placed.map Prod.fst).filter (fun a => key a = k)
      = (placed.filter chosen).map Prod.fst := List.filter_map
    _ = (items.zipIdx.filter chosen).map Prod.fst := by rw [heq]
    _ = (items.zipIdx.map Prod.fst).filter (fun a => key a = k) := by rw [List.filter_map]; rfl
    _ = items.filter fun a => key a = k := by rw [List.zipIdx_map_fst]

/-- Items with different keys may be rearranged in any way. -/
theorem keepsOrder_of_nodup (h : (items.map key).Nodup) (hperm : reordered.Perm items) :
    KeepsOrder key items reordered := by
  -- the places go where their items go
  have hlift : ∃ placed : List (α × Nat), reordered = placed.map Prod.fst ∧ placed.Perm items.zipIdx := by
    have hcomp := congrFun (congrFun (List.eq_map_comp_perm (Prod.fst : α × Nat → α)) reordered) items.zipIdx
    rw [List.zipIdx_map_fst] at hcomp
    exact hcomp.mpr hperm
  obtain ⟨placed, rfl, hplaced⟩ := hlift
  have hdifferent : ((placed.map Prod.fst).map key).Nodup := (hperm.map key).nodup_iff.mpr h
  rw [List.map_map] at hdifferent
  exact ⟨placed, hplaced, rfl, (List.pairwise_map.mp hdifferent).imp fun hne heq => absurd heq hne⟩

end KeepsOrder

namespace Pivot

variable {p : Places} {rows rows' : List (List Cell)}

/-! ## What rows in another order give -/

/-- The keys of a row: those of its dimensions and that of the pivot column. -/
def rowKey (p : Places) (row : List Cell) : List String × String := (groupKey p row, pivotKey p row)

/-- The last row with both keys, among the rows with both keys. -/
theorem lastRow?_eq (p : Places) (rows : List (List Cell)) (group : List String) (key : String) :
    lastRow? p rows group key = (rows.filter fun row => rowKey p row = (group, key)).getLast? := by
  rw [lastRow?, List.findRev?_eq_find?_reverse, ← List.head?_filter, List.filter_reverse, List.head?_reverse]
  simp only [rowKey, Prod.mk.injEq]

/-- A value is told by the rows with both of its keys. -/
theorem lastValue_of_keepsOrder (h : KeepsOrder (rowKey p) rows rows') (group : List String) (key : String) :
    lastValue p rows' group key = lastValue p rows group key := by
  rw [lastValue, lastRow?_eq, h.filter_eq (group, key), ← lastRow?_eq, ← lastValue]

theorem pivotKeys_of_perm (h : rows'.Perm rows) : pivotKeys p rows' = pivotKeys p rows :=
  eq_of_pairwise_of_mem_iff (fun _ _ => String.lt_asymm) (pairwise_pivotKeys p rows')
    (pairwise_pivotKeys p rows) fun key => by simp only [mem_pivotKeys, h.mem_iff]

/-- The groups of rows in another order are the same, by their keys. -/
theorem groups_perm (h : rows'.Perm rows) :
    ((groups p rows').map Group.key).Perm ((groups p rows).map Group.key) := by
  have hkeys := (gathering_groups p rows).keys
  have hkeys' := (gathering_groups p rows').keys
  refine (List.perm_ext_iff_of_nodup hkeys'.nodup hkeys.nodup).mpr fun group => ?_
  rw [hkeys'.mem_iff, hkeys.mem_iff, (h.map (groupKey p)).mem_iff]

/-! ## Reading the rows of a pivot -/

/-- A row of a pivot, read by the keys of its dimension cells and by its exact values. -/
def readRow (dimensions : Nat) (row : List Cell) : List String × List Cell :=
  ((row.take dimensions).map Cell.key, row.drop dimensions)

/-- The first row of a group has the keys of the group. -/
theorem map_key_firstDimensions {group : List String} (h : ∃ row ∈ rows, groupKey p row = group) :
    (firstDimensions p rows group).map Cell.key = group := by
  obtain ⟨first, hgroup, hfirst⟩ := exists_firstDimensions_eq h
  rw [hfirst]
  exact hgroup

/-- A pivot is read as its groups with their values. -/
theorem map_readRow_pivotAt (r : QueryResult) (pattern : Option String) (p : Places) :
    (pivotAt r pattern p).rows.map (readRow p.dimensions.length) =
      ((groups p r.rows).map Group.key).map fun group =>
        (group, (pivotKeys p r.rows).map (lastValue p r.rows group)) := by
  rw [rows_pivotAt, List.map_map]
  refine List.map_congr_left fun group hgroup => ?_
  have hoccurs := List.mem_map.mp (((gathering_groups p r.rows).keys.mem_iff group).mp hgroup)
  have hlength := firstDimensions_length hoccurs
  show readRow p.dimensions.length (firstDimensions p r.rows group ++ _) = _
  rw [readRow, List.take_left' hlength, List.drop_left' hlength, map_key_firstDimensions hoccurs]

/-! ## Pivots of rows in another order -/

/-- **Pivots that differ only in the order of their rows**, and in dimension cells with the same keys. -/
structure SameUpToOrder (dimensions : Nat) (w w' : QueryResult) : Prop where
  columns : w'.columns = w.columns
  columnTypes : w'.columnTypes = w.columnTypes
  rowCount : w'.rowCount = w.rowCount
  truncated : w'.truncated = w.truncated
  executionTimeMs : w'.executionTimeMs = w.executionTimeMs
  rows : (w'.rows.map (readRow dimensions)).Perm (w.rows.map (readRow dimensions))

variable {r : QueryResult}

/-- The rows of a pivot are the same up to order where rows with the same keys keep theirs. -/
theorem sameUpToOrder_pivotAt (pattern : Option String) (h : KeepsOrder (rowKey p) r.rows rows) :
    SameUpToOrder p.dimensions.length (pivotAt r pattern p) (pivotAt { r with rows := rows } pattern p) := by
  have hkeys : pivotKeys p rows = pivotKeys p r.rows := pivotKeys_of_perm h.perm
  have hgroups := groups_perm (p := p) h.perm
  have hrows : ((pivotAt { r with rows := rows } pattern p).rows.map (readRow p.dimensions.length)).Perm
      ((pivotAt r pattern p).rows.map (readRow p.dimensions.length)) := by
    rw [map_readRow_pivotAt, map_readRow_pivotAt]
    show (((groups p rows).map Group.key).map fun group =>
      (group, (pivotKeys p rows).map (lastValue p rows group))).Perm _
    rw [hkeys, funext fun group => funext (lastValue_of_keepsOrder h group)]
    exact hgroups.map _
  have hlength := hrows.length_eq
  rw [List.length_map, List.length_map] at hlength
  exact {
    columns := by
      show _ ++ (pivotKeys p rows).map _ = _ ++ (pivotKeys p r.rows).map _
      rw [hkeys]
    columnTypes := by
      show _ ++ (pivotKeys p rows).map _ = _ ++ (pivotKeys p r.rows).map _
      rw [hkeys]
      rfl
    rowCount := congrArg UInt64.ofNat hlength
    truncated := rfl
    executionTimeMs := rfl
    rows := hrows }

/-- **A pivot does not depend on the order of unrelated rows.** Where rows with the same dimension keys and the
same pivot key keep their order, the pivot has the same columns, and its rows are the same up to their order,
read by the keys of their dimensions and their exact values. Where no two rows have the same keys, this holds for
the rows in any order. -/
theorem pivot_of_keepsOrder {c : PivotConfig} (hp : c.pivotColumn ∈ r.columns)
    (hv : c.valueColumn ∈ r.columns) :
    (∀ rows, KeepsOrder (rowKey (placesOf r c)) r.rows rows →
      SameUpToOrder (dimensionNames r c).length (r.pivot c) ({ r with rows := rows }.pivot c)) ∧
    ((r.rows.map (rowKey (placesOf r c))).Nodup → ∀ rows, rows.Perm r.rows →
      SameUpToOrder (dimensionNames r c).length (r.pivot c) ({ r with rows := rows }.pivot c)) := by
  have hkeep : ∀ rows, KeepsOrder (rowKey (placesOf r c)) r.rows rows →
      SameUpToOrder (dimensionNames r c).length (r.pivot c) ({ r with rows := rows }.pivot c) := by
    intro rows h
    have hplaces : places? { r with rows := rows } c = some (placesOf r c) := places?_eq hp hv
    have hlength : (placesOf r c).dimensions.length = (dimensionNames r c).length := List.length_map _
    rw [QueryResult.pivot, QueryResult.pivot, places?_eq hp hv, hplaces, ← hlength]
    exact sameUpToOrder_pivotAt c.headerPattern h
  exact ⟨hkeep, fun hdifferent rows hperm => hkeep rows (keepsOrder_of_nodup hdifferent hperm)⟩

/-- A stock by shelf and size, with shelves that have the same key and are different cells. The size `s` of the
shelf `3` is there twice. -/
def stock : QueryResult where
  columns := ["shelf", "size", "count"]
  columnTypes := []
  rows := [
    [.number (.ofNat 3), .text "s", .text "a"],
    [.text "3", .text "m", .text "b"],
    [.null, .text "s", .text "c"],
    [.text "null", .text "m"],
    [.number (.ofNat 3), .text "s", .text "d"]]
  rowCount := 5
  truncated := false
  executionTimeMs := 4

/-- The rows of the stock in another order, in which the two rows with the same keys keep theirs. -/
def stockReordered : QueryResult :=
  { stock with
    rows := [
      [.text "null", .text "m"],
      [.text "3", .text "m", .text "b"],
      [.number (.ofNat 3), .text "s", .text "a"],
      [.null, .text "s", .text "c"],
      [.number (.ofNat 3), .text "s", .text "d"]] }

/-- The first rows of the stock, no two of which have the same keys. -/
def stockBefore : QueryResult := { stock with rows := stock.rows.take 4 }

/-- A column for every size. -/
def bySize : PivotConfig := ⟨"size", "count", ["shelf"], none⟩

/-- In another order the shelves are shown by other cells with the same keys; the counts are the same. -/
theorem pivot_stock :
    bySize.pivotColumn ∈ stock.columns ∧ bySize.valueColumn ∈ stock.columns ∧
      KeepsOrder (rowKey (placesOf stock bySize)) stock.rows stockReordered.rows ∧
      SameUpToOrder 1 (stock.pivot bySize) (stockReordered.pivot bySize) ∧
      (stock.pivot bySize).rows =
        [[.number (.ofNat 3), .text "b", .text "d"], [.null, .null, .text "c"]] ∧
      (stockReordered.pivot bySize).rows =
        [[.text "null", .null, .text "c"], [.text "3", .text "b", .text "d"]] ∧
      (stockBefore.rows.map (rowKey (placesOf stockBefore bySize))).Nodup ∧
      SameUpToOrder 1 (stockBefore.pivot bySize)
        ({ stockBefore with rows := stockBefore.rows.reverse }.pivot bySize) := by
  have hkeep : KeepsOrder (rowKey (placesOf stock bySize)) stock.rows stockReordered.rows := by
    refine ⟨stockReordered.rows.zip [3, 1, 0, 2, 4], ?_, rfl, ?_⟩
    · decide +kernel
    · decide +kernel
  have hdifferent : (stockBefore.rows.map (rowKey (placesOf stockBefore bySize))).Nodup := by decide +kernel
  have hp : bySize.pivotColumn ∈ stock.columns := by decide
  have hv : bySize.valueColumn ∈ stock.columns := by decide
  exact ⟨hp, hv, hkeep, (pivot_of_keepsOrder hp hv).1 _ hkeep, by decide +kernel, by decide +kernel,
    hdifferent, (pivot_of_keepsOrder (r := stockBefore) hp hv).2 hdifferent _ (List.reverse_perm _)⟩

end Pivot

end QueryDesk
