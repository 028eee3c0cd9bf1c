import QueryDesk.Query.Aggregation

/-! # Column categories

The type names of databases sorted into four categories by the fragments in them, and what each
category allows. The fragments are tried in order; the first one found anywhere in the lower case of
the name decides.
-/

set_option autoImplicit false

namespace QueryDesk

/-- **What the values of a column are**: calendar values, quantities, labels, or not known. -/
inductive Category where
  | date
  | numeric
  | categorical
  | unknown
deriving DecidableEq

namespace Category

/-- The word for the category. -/
def word : Category → String
  | .date => "date"
  | .numeric => "numeric"
  | .categorical => "categorical"
  | .unknown => "unknown"

/-- The fragments of type names and the category each stands for, most telling first. -/
def fragments : List (String × Category) :=
  [("timestamp", .date), ("date", .date), ("time", .date),
   ("int", .numeric), ("numeric", .numeric), ("decimal", .numeric), ("float", .numeric),
   ("double", .numeric), ("real", .numeric), ("money", .numeric),
   ("char", .categorical), ("text", .categorical), ("varchar", .categorical),
   ("bool", .categorical), ("uuid", .categorical)]

/-- **The category of a type name**: that of the first fragment found in its lower case. -/
def ofTypeName (name : String) : Category :=
  match fragments.find? fun f => Text.contains f.1.toList (Text.lowered name) with
  | some f => f.2
  | none => .unknown

/-- The aggregations that a column of the category can have. -/
def aggregations : Category → List Aggregation
  | .numeric => Aggregation.all
  | .date => [.raw, .count, .countDistinct, .min, .max]
  | .categorical | .unknown => [.raw, .count, .countDistinct]

/-- Whether a column of the category can have the aggregation. -/
def allows (c : Category) (a : Aggregation) : Bool := c.aggregations.contains a

/-- Whether values of the category make sensible headers of pivoted columns. -/
def isPivotable (c : Category) : Bool := c != .numeric

/-- Whether values of the category can be cut down to an interval. -/
def isTruncatable (c : Category) : Bool := c == .date

end Category

end QueryDesk
