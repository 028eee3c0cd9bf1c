import QueryDesk.Result.Basic

/-! # Chart data

Results as a chart draws them: labels along one axis, and a series of numbers for every measure. A
cell that holds no number is a gap.
-/

set_option autoImplicit false

namespace QueryDesk

/-- **A named row of numbers with gaps.** -/
structure Series where
  name : String
  data : List (Option Double)
deriving DecidableEq

/-- **Labels and series.** -/
structure ChartData where
  categories : List String
  series : List Series
deriving DecidableEq

/-- The series in JSON. -/
def Series.toJson (s : Series) : Json :=
  .object [("name", .text s.name), ("data", .ofList (Json.ofOption Json.double) s.data)]

/-- The chart data in JSON. -/
def ChartData.toJson (d : ChartData) : Json :=
  .object [("categories", .ofList .text d.categories), ("series", .ofList Series.toJson d.series)]

namespace QueryResult

/-- The series of a column; a column that is not there has none. -/
def series? (r : QueryResult) (name : String) : Option Series :=
  (r.columnIndex? name).map fun i => ⟨name, (r.columnValues i).map Cell.number?⟩

/-- **The chart of a category column and value columns**; value columns that are not there are
skipped, and without the category column there is nothing to draw. -/
def chart (r : QueryResult) (category : String) (values : List String) : ChartData :=
  match r.columnIndex? category with
  | none => ⟨[], []⟩
  | some i => ⟨(r.columnValues i).map Cell.key, values.filterMap r.series?⟩

/-- **The chart of a wide result**: the first column against all the others. -/
def wideChart (r : QueryResult) : ChartData :=
  match r.columns with
  | [] => ⟨[], []⟩
  | category :: values => r.chart category values

end QueryResult

end QueryDesk
