import QueryDesk.Chart.Profile
import QueryDesk.Chart.Series
import QueryDesk.Number.Order
import QueryDesk.Query.Wire

/-! # Chart suggestions

Which charts suit a result. Every rule looks at the profiles of the columns and proposes at most one
chart with a confidence. Six rules look at the columns alone; grouped bars are proposed only where no
sure bars were, and the last rule speaks only when no other did. The proposals are then ranked by their
confidence.
-/

set_option autoImplicit false

namespace QueryDesk

/-- **A kind of chart.** -/
inductive ChartKind where
  | metric
  | line
  | area
  | bar
  | pie
  | donut
  | scatter
deriving DecidableEq

namespace ChartKind

/-- Every kind of chart. -/
def all : List ChartKind := [.metric, .line, .area, .bar, .pie, .donut, .scatter]

/-- The word for the kind of chart. -/
def word : ChartKind → String
  | .metric => "metric"
  | .line => "line"
  | .area => "area"
  | .bar => "bar"
  | .pie => "pie"
  | .donut => "donut"
  | .scatter => "scatter"

/-- The kind of chart that a word stands for. -/
def ofWord? (s : String) : Option ChartKind := all.find? fun k => k.word == s

theorem ofWord?_word (k : ChartKind) : ofWord? k.word = some k := by cases k <;> decide

end ChartKind

/-- The direction of bars. -/
inductive Orientation where
  | vertical
  | horizontal
deriving DecidableEq

namespace Orientation

/-- The word for the direction. -/
def word : Orientation → String
  | .vertical => "vertical"
  | .horizontal => "horizontal"

/-- The direction that a word stands for. -/
def ofWord? (s : String) : Option Orientation := [vertical, horizontal].find? fun o => o.word == s

end Orientation

/-- **How a chart is set up.** -/
structure ChartConfig where
  xAxis : Option String
  yAxis : List String
  orientation : Option Orientation
  stacked : Bool
  showPoints : Bool
  size : Option String
deriving DecidableEq

/-- **A proposed chart**, with how sure the proposal is. -/
structure Suggestion where
  kind : ChartKind
  confidence : Double
  reason : String
  config : ChartConfig
deriving DecidableEq

/-! ## In JSON -/

namespace ChartConfig

/-- The set-up in JSON. -/
def toJson (c : ChartConfig) : Json :=
  .object (optionalMember "xAxis" .text c.xAxis ++ [("yAxis", .ofList .text c.yAxis)] ++
    optionalMember "orientation" (fun o => .text o.word) c.orientation ++
    [("stacked", .bool c.stacked), ("showPoints", .bool c.showPoints)] ++
    optionalMember "size" .text c.size)

/-- A set-up read from JSON. -/
def ofJson? (v : Json) : Option ChartConfig := do
  let f ← v.fields? ["xAxis", "yAxis", "orientation", "stacked", "showPoints", "size"]
  let xAxis ← f.optionalByName "xAxis" Json.asText?
  let yAxis ← f.withDefault "yAxis" (Json.asList? Json.asText?) []
  let orientation ← f.optionalByName "orientation" (Json.asWord? Orientation.ofWord?)
  let stacked ← f.withDefault "stacked" Json.asBool? false
  let showPoints ← f.withDefault "showPoints" Json.asBool? false
  let size ← f.optionalByName "size" Json.asText?
  some ⟨xAxis, yAxis, orientation, stacked, showPoints, size⟩

end ChartConfig

namespace Suggestion

/-- The suggestion in JSON. -/
def toJson (s : Suggestion) : Json :=
  .object [("type", .text s.kind.word), ("confidence", .double s.confidence),
    ("reason", .text s.reason), ("config", s.config.toJson)]

/-- A suggestion read from JSON. -/
def ofJson? (v : Json) : Option Suggestion := do
  let f ← v.fields? ["type", "confidence", "reason", "config"]
  let kind ← f.required "type" (Json.asWord? ChartKind.ofWord?)
  let confidence ← f.required "confidence" Json.asDouble?
  let reason ← f.required "reason" Json.asText?
  let config ← f.required "config" ChartConfig.ofJson?
  some ⟨kind, confidence, reason, config⟩

/-- **The data of the suggested chart.** A chart without a category axis has a series for every
measure and an empty label for every row. -/
def data (s : Suggestion) (r : QueryResult) : ChartData :=
  match s.config.xAxis with
  | some x => r.chart x s.config.yAxis
  | none => ⟨r.rows.map fun _ => "", s.config.yAxis.filterMap r.series?⟩

/-- Whether a suggestion may stand before another one, which is not surer then. Confidences that do
not compare count as equal. -/
def mayPrecede (s t : Suggestion) : Bool :=
  (t.confidence.compare? s.confidence).getD .eq != .gt

end Suggestion

/-! ## What the rules look at -/

/-- The most categories of a bar chart. -/
def barLimit : Nat := 20

/-- The most slices of a pie. -/
def pieLimit : Nat := 7

/-- Bars lie down above this many categories. -/
def standingLimit : Nat := 10

/-- A pie of at most this many slices is a donut. -/
def donutLimit : Nat := 5

/-- A line of at most this many rows shows its points. -/
def pointsLimit : Nat := 20

/-- The fewest rows of a scatter plot. -/
def scatterRows : Nat := 5

/-- **What the rules look at**: the profiles, by category, and the number of rows. -/
structure Overview where
  profiles : List Profile
  rows : Nat

namespace Overview

/-- The columns of quantities. -/
def numeric (o : Overview) : List Profile := o.profiles.filter Profile.isNumeric

/-- The columns of dates. -/
def dates (o : Overview) : List Profile := o.profiles.filter Profile.isDate

/-- The columns of labels. -/
def labels (o : Overview) : List Profile := o.profiles.filter Profile.isCategorical

/-- The names of the columns of quantities. -/
def measures (o : Overview) : List String := o.numeric.map Profile.name

/-- The names of the columns of quantities in a row. -/
def measuresText (o : Overview) : String := String.intercalate ", " o.measures

end Overview

/-- A set-up with a category axis and measures only. -/
def plainConfig (xAxis : Option String) (yAxis : List String) : ChartConfig :=
  ⟨xAxis, yAxis, none, false, false, none⟩

/-- A confidence in hundredths. -/
@[irreducible]
def hundredths (n : Nat) : Double := .ofRatio false n 100

/-! ## The rules -/

namespace Overview

/-- One quantity in one row is a big number. -/
def metric? (o : Overview) : Option Suggestion :=
  if o.rows == 1 && o.numeric.length == 1 then
    some ⟨.metric, hundredths 95, "Single value result", plainConfig none o.measures⟩
  else none

/-- Quantities over dates are a line. -/
def line? (o : Overview) : Option Suggestion :=
  match o.dates, o.numeric with
  | date :: _, _ :: _ =>
    some ⟨.line, hundredths 90, "Trend of " ++ o.measuresText ++ " over " ++ date.name,
      { plainConfig (some date.name) o.measures with showPoints := o.rows ≤ pointsLimit }⟩
  | _, _ => none

/-- Few labels with quantities are bars. -/
def bar? (o : Overview) : Option Suggestion :=
  match o.labels, o.numeric with
  | label :: _, _ :: _ =>
    if label.uniqueCount ≤ barLimit then
      some ⟨.bar, hundredths 85,
        "Compare " ++ o.measuresText ++ " across " ++ toString label.uniqueCount ++ " " ++
          label.name ++ " values",
        { plainConfig (some label.name) o.measures with
          orientation := some
            (if standingLimit < label.uniqueCount then .horizontal else .vertical)
          stacked := 1 < o.numeric.length }⟩
    else none
  | _, _ => none

/-- Very few labels with one quantity are shares. -/
def share? (o : Overview) : Option Suggestion :=
  match o.labels with
  | label :: _ =>
    if label.uniqueCount ≤ pieLimit && o.numeric.length == 1 then
      some ⟨if label.uniqueCount ≤ donutLimit then .donut else .pie, hundredths 80,
        "Share of " ++ o.measuresText ++ " by " ++ label.name,
        plainConfig (some label.name) o.measures⟩
    else none
  | [] => none

/-- Several quantities over dates also stack. -/
def area? (o : Overview) : Option Suggestion :=
  match o.dates with
  | date :: _ =>
    if 1 < o.numeric.length then
      some ⟨.area, hundredths 75, "Stacked composition over " ++ date.name,
        { plainConfig (some date.name) o.measures with stacked := true }⟩
    else none
  | [] => none

/-- Two quantities without dates may depend on each other. -/
def scatter? (o : Overview) : Option Suggestion :=
  match o.numeric with
  | first :: second :: others =>
    if o.dates.isEmpty && scatterRows ≤ o.rows then
      some ⟨.scatter, hundredths 70, "Relationship between " ++ first.name ++ " and " ++ second.name,
        { plainConfig (some first.name) [second.name] with size := others.head?.map Profile.name }⟩
    else none
  | _ => none

/-- Whether bars are among the proposals, and at least as sure as plain bars. -/
def hasSureBars (proposals : List Suggestion) : Bool :=
  proposals.any fun s => s.kind == .bar && decide (hundredths 85 ≤ s.confidence)

/-- Several aggregated quantities by label are grouped bars where no sure bars were proposed before. -/
def grouped? (o : Overview) (earlier : List Suggestion) : Option Suggestion :=
  match o.labels with
  | label :: _ =>
    if 1 < o.numeric.length && o.dates.isEmpty && o.profiles.any Profile.hasAggregation &&
        !hasSureBars earlier then
      some ⟨.bar, hundredths 65, "Grouped comparison by " ++ label.name,
        { plainConfig (some label.name) o.measures with orientation := some .vertical }⟩
    else none
  | [] => none

/-- The first two columns, for when nothing was proposed before. -/
def fallback? (o : Overview) (earlier : List Suggestion) : Option Suggestion :=
  match earlier, o.profiles with
  | [], first :: second :: _ =>
    some ⟨.bar, hundredths 50, "Default view of the first two columns",
      { plainConfig (some first.name) [second.name] with orientation := some .vertical }⟩
  | _, _ => none

/-! ## Proposals and their ranking -/

/-- The rules that look at the columns alone, in the order in which they are asked. -/
def rules : List (Overview → Option Suggestion) := [metric?, line?, area?, bar?, share?, scatter?]

/-- What the rules propose that look at the columns alone. -/
def plainProposals (o : Overview) : List Suggestion := rules.filterMap fun rule => rule o

/-- What is proposed before the last rule is asked. -/
def ruleProposals (o : Overview) : List Suggestion :=
  o.plainProposals ++ (o.grouped? o.plainProposals).toList

/-- **What all rules propose**, in the order in which they are asked. -/
def proposals (o : Overview) : List Suggestion :=
  o.ruleProposals ++ (o.fallback? o.ruleProposals).toList

/-- **The ranked proposals**, the surest first; of two that are equally sure the one proposed first. -/
def suggestions (o : Overview) : List Suggestion := o.proposals.mergeSort Suggestion.mayPrecede

end Overview

/-- **The charts suggested for a result**, the surest first. -/
def QueryResult.suggestions (r : QueryResult) (selections : List Selection) : List Suggestion :=
  Overview.suggestions ⟨r.profiles selections, r.rows.length⟩

end QueryDesk
