import QueryDesk.Schema.Category
import QueryDesk.Result.Basic
import QueryDesk.Result.Display
import QueryDesk.Query.Basic

/-! # Column profiles

What chart suggestions know about a column of a result: its category, how many different values it
has, and whether it was aggregated. The selection a column came from is found by its display name,
or by its place where there are as many selections as columns. A column whose type name says nothing
is judged by its aggregation or by its values.
-/

set_option autoImplicit false

namespace QueryDesk

/-- **What is known about a column.** -/
structure Profile where
  name : String
  category : Category
  uniqueCount : Nat
  hasAggregation : Bool
deriving DecidableEq

namespace Profile

/-- Whether the column holds quantities. -/
def isNumeric (p : Profile) : Bool := p.category == .numeric

/-- Whether the column holds dates. -/
def isDate (p : Profile) : Bool := p.category == .date

/-- Whether the column holds labels. -/
def isCategorical (p : Profile) : Bool := p.category == .categorical

/-- The profile in JSON. -/
def toJson (p : Profile) : Json :=
  .object [("name", .text p.name), ("category", .text p.category.word),
    ("uniqueCount", .natural (UInt64.ofNat p.uniqueCount)),
    ("hasAggregation", .bool p.hasAggregation)]

end Profile

/-! ## The category of values -/

/-- What all values seen so far have in common. -/
structure Evidence where
  seen : Bool
  allNumbers : Bool
  allDates : Bool
deriving DecidableEq

namespace Evidence

/-- Nothing seen yet. -/
def start : Evidence := ⟨false, true, true⟩

/-- One value more; null says nothing. -/
def add (e : Evidence) : Cell → Evidence
  | .null => e
  | .number _ => ⟨true, e.allNumbers, false⟩
  | .text s => ⟨true, false, e.allDates && looksLikeDate s.toList⟩
  | .bool _ => ⟨true, false, false⟩

/-- The category that the values show. -/
def category (e : Evidence) : Category :=
  if !e.seen then .unknown
  else if e.allNumbers then .numeric
  else if e.allDates then .date
  else .categorical

end Evidence

/-- **The category of a column by its values.** -/
def inferCategory (values : List Cell) : Category := (values.foldl Evidence.add .start).category

/-! ## Profiles -/

/-- The category of a column: by its type name, else by its aggregation, else by its values. -/
def columnCategory (typeName : String) (aggregation : Aggregation) (values : List Cell) : Category :=
  match Category.ofTypeName typeName with
  | .unknown =>
    match aggregation with
    | .sum | .avg | .count | .countDistinct => .numeric
    | _ => inferCategory values
  | c => c

/-- How many different keys the values have that are not null. -/
def uniqueCount (values : List Cell) : Nat :=
  ((values.filter fun c => !c.isNull).map Cell.key).eraseDups.length

/-- The selection that a column came from: by its display name, or by its place where there are as
many selections as columns. -/
def selectionFor? (r : QueryResult) (selections : List Selection) (index : Nat) (name : String) :
    Option Selection :=
  (selections.find? fun s => s.displayName == name).or
    (if selections.length == r.columns.length then selections[index]? else none)

/-- The profile of a column; one without a selection is left out where there are selections. -/
def profile? (r : QueryResult) (selections : List Selection) (index : Nat) (name : String) :
    Option Profile :=
  let selection := selectionFor? r selections index name
  if selection.isNone && !selections.isEmpty then none
  else
    let aggregation := (selection.map Selection.aggregation).getD .raw
    let values := r.columnValues index
    some ⟨name, columnCategory ((r.columnType? index).getD "") aggregation values,
      uniqueCount values, aggregation.isAggregate⟩

/-- **The profiles of the columns of a result.** -/
def QueryResult.profiles (r : QueryResult) (selections : List Selection) : List Profile :=
  r.columns.zipIdx.filterMap fun (name, index) => profile? r selections index name

end QueryDesk
