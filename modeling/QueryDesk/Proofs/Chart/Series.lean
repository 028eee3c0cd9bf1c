import QueryDesk.Chart.Series
import QueryDesk.Proofs.Result.Pivot

/-! # Charts of wide tables

A wide table is drawn with its first column along the axis and a series for every other column. The columns
are looked up by their names, so the series of a name has the numbers of the first column of that name
(`wideChart_eq`). A table charts as itself (`QueryResult.ChartsAsItself`) exactly if columns of one name hold
the same numbers (`chartsAsItself_iff`), in particular if no name occurs twice. The columns of a pivot can
well have one name, since different pivot keys may be shown alike by the pattern of the header
(`not_chartsAsItself_pivot`).
-/

set_option autoImplicit false

namespace QueryDesk.QueryResult

open Pivot (cellAt HeadersDiffer shaped_pivot nodup_columns_pivot_iff)

/-! ## Columns by place and by name -/

/-- The numbers in the column at an index, row by row. -/
def numbersAt (r : QueryResult) (index : Nat) : List (Option Double) :=
  r.rows.map fun row => (cellAt row index).number?

/-- In a table every row has a cell in every column. -/
theorem columnValues_eq_map {r : QueryResult} (hr : r.Shaped) {index : Nat}
    (hindex : index < r.columns.length) : r.columnValues index = r.rows.map fun row => cellAt row index := by
  have hcell : ∀ row ∈ r.rows, row[index]? = some (cellAt row index) := by
    intro row hrow
    have hlt : index < row.length := by
      rw [hr.rows row hrow]
      exact hindex
    rw [cellAt, List.getElem?_eq_getElem hlt]
    rfl
  rw [columnValues, List.filterMap_congr hcell, List.filterMap_eq_map']

theorem series?_of_mem {r : QueryResult} (hr : r.Shaped) {name : String} (hname : name ∈ r.columns) :
    r.series? name = some ⟨name, r.numbersAt (r.columns.idxOf name)⟩ := by
  rw [series?, Pivot.columnIndex?_of_mem hname, Option.map_some,
    columnValues_eq_map hr (List.idxOf_lt_length_of_mem hname), List.map_map]
  rfl

/-- No value column is skipped that is there. -/
theorem filterMap_series? {r : QueryResult} (hr : r.Shaped) {names : List String}
    (hnames : ∀ name ∈ names, name ∈ r.columns) :
    names.filterMap r.series? = names.map fun name => ⟨name, r.numbersAt (r.columns.idxOf name)⟩ := by
  rw [List.filterMap_congr fun name hname => series?_of_mem hr (hnames name hname),
    List.filterMap_eq_map']

/-- The chart of columns that are there: a label for every row, and for every name its series. -/
theorem chart_eq {r : QueryResult} (hr : r.Shaped) {category : String} {names : List String}
    (hcategory : category ∈ r.columns) (hnames : ∀ name ∈ names, name ∈ r.columns) :
    r.chart category names = ⟨r.rows.map fun row => (cellAt row (r.columns.idxOf category)).key,
      names.map fun name => ⟨name, r.numbersAt (r.columns.idxOf name)⟩⟩ := by
  rw [chart, Pivot.columnIndex?_of_mem hcategory]
  dsimp only
  rw [columnValues_eq_map hr (List.idxOf_lt_length_of_mem hcategory), filterMap_series? hr hnames,
    List.map_map]
  rfl

/-- **The chart of a wide table**: the first column against all others, each as the first column of its
name. -/
theorem wideChart_eq {r : QueryResult} (hr : r.Shaped) (hne : r.columns ≠ []) :
    r.wideChart = ⟨r.rows.map fun row => (cellAt row 0).key,
      r.columns.tail.map fun name => ⟨name, r.numbersAt (r.columns.idxOf name)⟩⟩ := by
  cases hcolumns : r.columns with
  | nil => exact absurd hcolumns hne
  | cons category names =>
      have hchart : r.wideChart = r.chart category names := by rw [wideChart, hcolumns]
      have hcategory : category ∈ r.columns := hcolumns ▸ List.mem_cons_self
      rw [hchart, chart_eq hr hcategory fun name hname => hcolumns ▸ List.mem_cons_of_mem category hname,
        hcolumns, List.idxOf_cons_self]
      rfl

/-! ## Tables that chart as themselves -/

/-- **A wide table that charts as itself**: the labels are the keys of the first column, and there is one
series for every other column, in their order, with the numbers of that column row by row. -/
structure ChartsAsItself (w : QueryResult) : Prop where
  categories : w.wideChart.categories = w.rows.map fun row => (cellAt row 0).key
  names : w.wideChart.series.map Series.name = w.columns.tail
  data : ∀ k, k + 1 < w.columns.length →
    w.wideChart.series[k]?.map Series.data = some (w.numbersAt (k + 1))

/-- **What a chart has at the place of a column** are the numbers of the first column of its name. -/
theorem data_wideChart {w : QueryResult} (hw : w.Shaped) {k : Nat} {name : String}
    (hname : w.columns[k + 1]? = some name) :
    w.wideChart.series[k]?.map Series.data = some (w.numbersAt (w.columns.idxOf name)) := by
  have hne : w.columns ≠ [] := by
    rintro hnil
    rw [hnil] at hname
    simp at hname
  have htail : w.columns.tail[k]? = some name := by rw [List.getElem?_tail, hname]
  rw [wideChart_eq hw hne, List.getElem?_map, htail]
  rfl

/-- **A table charts as itself exactly if every column has the numbers of the first column of its name.** -/
theorem chartsAsItself_iff {w : QueryResult} (hw : w.Shaped) (hne : w.columns ≠ []) :
    w.ChartsAsItself ↔ ∀ k name, w.columns[k + 1]? = some name →
      w.numbersAt (w.columns.idxOf name) = w.numbersAt (k + 1) := by
  constructor
  · intro h k name hname
    have hlt : k + 1 < w.columns.length := (List.getElem?_eq_some_iff.mp hname).1
    have hdata := h.data k hlt
    rw [data_wideChart hw hname] at hdata
    exact Option.some.inj hdata
  · intro h
    refine ⟨by rw [wideChart_eq hw hne], ?_, ?_⟩
    · rw [wideChart_eq hw hne, List.map_map]
      exact List.map_id' _
    · intro k hlt
      have hname : w.columns[k + 1]? = some w.columns[k + 1] := List.getElem?_eq_getElem hlt
      rw [data_wideChart hw hname, h k _ hname]

theorem chartsAsItself_of_nodup {w : QueryResult} (hw : w.Shaped) (hne : w.columns ≠ [])
    (hnodup : w.columns.Nodup) : w.ChartsAsItself := by
  refine (chartsAsItself_iff hw hne).mpr fun k name hname => ?_
  obtain ⟨hlt, rfl⟩ := List.getElem?_eq_some_iff.mp hname
  rw [hnodup.idxOf_getElem]

/-! ## Pivots -/

/-- **A pivot charts as itself as far as its names tell its columns apart.** The labels are the keys of the
first column and there is a series for every other column, in their order; the numbers of a series are those
of the first column of its name. So the pivot charts as itself exactly if columns of one name hold the same
numbers, and always if different pivot keys have different headers and none that is the name of a
dimension. -/
theorem wideChart_pivot {r : QueryResult} (hr : r.Shaped) (c : PivotConfig)
    (hne : (r.pivot c).columns ≠ []) :
    (r.pivot c).wideChart.categories = (r.pivot c).rows.map (fun row => (cellAt row 0).key) ∧
    (r.pivot c).wideChart.series.map Series.name = (r.pivot c).columns.tail ∧
    ((r.pivot c).ChartsAsItself ↔ ∀ k name, (r.pivot c).columns[k + 1]? = some name →
      (r.pivot c).numbersAt ((r.pivot c).columns.idxOf name) = (r.pivot c).numbersAt (k + 1)) ∧
    (c.pivotColumn ∈ r.columns → c.valueColumn ∈ r.columns → HeadersDiffer r c →
      (r.pivot c).ChartsAsItself) := by
  have hw : (r.pivot c).Shaped := shaped_pivot hr c
  refine ⟨?_, ?_, chartsAsItself_iff hw hne, ?_⟩
  · rw [wideChart_eq hw hne]
  · rw [wideChart_eq hw hne, List.map_map]
    exact List.map_id' _
  · intro hp hv hdiffer
    exact chartsAsItself_of_nodup hw hne ((nodup_columns_pivot_iff hp hv).mpr hdiffer)

/-- The amounts of one account on two days of one month. -/
def amounts : QueryResult where
  columns := ["account", "day", "amount"]
  columnTypes := ["text", "date", "numeric"]
  rows := [
    [.text "A", .text "2024-02-01", .text "9"],
    [.text "A", .text "2024-02-15", .text "3"]]
  rowCount := 2
  truncated := false
  executionTimeMs := 0

/-- A row for every account and a column for every day, with headers by a pattern. -/
def byDay (pattern : String) : PivotConfig := ⟨"day", "amount", ["account"], some pattern⟩

theorem shaped_amounts : amounts.Shaped := ⟨by decide, by decide⟩

/-- Where headers have the day and the month, the two days are two series. -/
theorem wideChart_pivot_amounts :
    (amounts.pivot (byDay "dd MMM")).columns = ["account", "01 Feb", "15 Feb"] ∧
      (amounts.pivot (byDay "dd MMM")).ChartsAsItself := by
  have hcolumns : (amounts.pivot (byDay "dd MMM")).columns = ["account", "01 Feb", "15 Feb"] := by
    decide +kernel
  have hdiffer : HeadersDiffer amounts (byDay "dd MMM") :=
    ⟨by decide +kernel, by decide +kernel, by decide +kernel⟩
  obtain ⟨-, -, -, hcharts⟩ := wideChart_pivot shaped_amounts (byDay "dd MMM") (by simp [hcolumns])
  exact ⟨hcolumns, hcharts (by decide) (by decide) hdiffer⟩

/-- **Two days of one month, shown by the month, are drawn as the first of them twice.** -/
theorem not_chartsAsItself_pivot :
    ¬∀ (r : QueryResult) (c : PivotConfig), r.Shaped → (r.pivot c).columns ≠ [] →
      (r.pivot c).ChartsAsItself := by
  intro h
  have hcharts := h amounts (byDay "MMM yyyy") shaped_amounts (by decide +kernel)
  have hdata := hcharts.data 1 (by decide +kernel)
  revert hdata
  decide +kernel

end QueryDesk.QueryResult
