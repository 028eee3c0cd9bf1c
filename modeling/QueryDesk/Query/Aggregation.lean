import QueryDesk.Text.Letter

/-! # Aggregations and truncation intervals

What may be done to a selected column: an aggregation over the rows of a group, and the interval a
date is cut down to before grouping. Each has a word for files and requests, a title for people, and
the spellings it is recognised by, in any letter case.
-/

set_option autoImplicit false

namespace QueryDesk

/-- The meaning of the first spelling that a text is, in any letter case. -/
def recognise? {α : Type} (spellings : List (String × α)) (s : String) : Option α :=
  spellings.lookup (String.ofList (Text.lowered s))

/-- **An aggregation over a column**; `raw` takes the value as it is. -/
inductive Aggregation where
  | raw
  | sum
  | avg
  | count
  | countDistinct
  | min
  | max
deriving DecidableEq

namespace Aggregation

/-- Every aggregation, in the order they are offered. -/
def all : List Aggregation := [.raw, .sum, .avg, .count, .countDistinct, .min, .max]

/-- The word for the aggregation in files and requests. -/
def word : Aggregation → String
  | .raw => "none"
  | .sum => "sum"
  | .avg => "avg"
  | .count => "count"
  | .countDistinct => "count_distinct"
  | .min => "min"
  | .max => "max"

/-- The aggregation that a word of a file stands for. -/
def ofWord? (s : String) : Option Aggregation := all.find? fun a => a.word == s

theorem ofWord?_word (a : Aggregation) : ofWord? a.word = some a := by cases a <;> decide

/-- The aggregation as people read it. -/
def title : Aggregation → String
  | .raw => "none"
  | .sum => "SUM"
  | .avg => "AVG"
  | .count => "COUNT"
  | .countDistinct => "COUNT DISTINCT"
  | .min => "MIN"
  | .max => "MAX"

/-- The spellings an aggregation is recognised by. -/
def spellings : List (String × Aggregation) :=
  [("none", .raw), ("", .raw), ("sum", .sum), ("avg", .avg), ("average", .avg), ("count", .count),
   ("count_distinct", .countDistinct), ("countdistinct", .countDistinct), ("min", .min),
   ("max", .max)]

/-- The aggregation that a text spells. -/
def recognise? (s : String) : Option Aggregation := QueryDesk.recognise? spellings s

/-- Whether rows are put together at all. -/
def isAggregate (a : Aggregation) : Bool := a != .raw

end Aggregation

/-- **The interval a date is cut down to**; weeks start on Monday. -/
inductive Interval where
  | hour
  | day
  | week
  | month
  | quarter
  | year
deriving DecidableEq

namespace Interval

/-- Every interval, shortest first. -/
def all : List Interval := [.hour, .day, .week, .month, .quarter, .year]

/-- The word for the interval, in files and for people. -/
def word : Interval → String
  | .hour => "hour"
  | .day => "day"
  | .week => "week"
  | .month => "month"
  | .quarter => "quarter"
  | .year => "year"

/-- The interval that a word of a file stands for. -/
def ofWord? (s : String) : Option Interval := all.find? fun i => i.word == s

theorem ofWord?_word (i : Interval) : ofWord? i.word = some i := by cases i <;> decide

/-- The spellings an interval is recognised by. -/
def spellings : List (String × Interval) :=
  [("hour", .hour), ("h", .hour), ("day", .day), ("d", .day), ("week", .week), ("w", .week),
   ("month", .month), ("m", .month), ("quarter", .quarter), ("q", .quarter), ("year", .year),
   ("y", .year)]

/-- The interval that a text spells. -/
def recognise? (s : String) : Option Interval := QueryDesk.recognise? spellings s

end Interval

end QueryDesk
