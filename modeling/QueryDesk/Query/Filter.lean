import QueryDesk.Result.Cell
import QueryDesk.Query.Aggregation

/-! # Filters

Conditions on a column: an operator, and the operand it compares with. A filter is complete when it
names a column and its operand has the shape that the operator needs.
-/

set_option autoImplicit false

namespace QueryDesk

/-- **A comparison operator.** -/
inductive Operator where
  | eq
  | neq
  | gt
  | gte
  | lt
  | lte
  | like
  | notLike
  | isIn
  | notIn
  | between
  | isNull
  | isNotNull
deriving DecidableEq

/-- What an operator compares with: nothing, one value, a list of values, or two bounds. -/
inductive Arity where
  | nothing
  | scalar
  | list
  | pair
deriving DecidableEq

namespace Operator

/-- Every operator. -/
def all : List Operator :=
  [.eq, .neq, .gt, .gte, .lt, .lte, .like, .notLike, .isIn, .notIn, .between, .isNull, .isNotNull]

/-- The word for the operator in files and requests. -/
def word : Operator → String
  | .eq => "eq"
  | .neq => "neq"
  | .gt => "gt"
  | .gte => "gte"
  | .lt => "lt"
  | .lte => "lte"
  | .like => "like"
  | .notLike => "not_like"
  | .isIn => "in_"
  | .notIn => "not_in"
  | .between => "between"
  | .isNull => "is_null"
  | .isNotNull => "is_not_null"

/-- The operator that a word of a file stands for; `in` is another word for `in_`. -/
def ofWord? (s : String) : Option Operator :=
  if s == "in" then some .isIn else all.find? fun o => o.word == s

theorem ofWord?_word (o : Operator) : ofWord? o.word = some o := by cases o <;> decide

/-- The operator as people read it. -/
def title : Operator → String
  | .eq => "="
  | .neq => "!="
  | .gt => ">"
  | .gte => ">="
  | .lt => "<"
  | .lte => "<="
  | .like => "LIKE"
  | .notLike => "NOT LIKE"
  | .isIn => "IN"
  | .notIn => "NOT IN"
  | .between => "BETWEEN"
  | .isNull => "IS NULL"
  | .isNotNull => "IS NOT NULL"

/-- The spellings an operator is recognised by. -/
def spellings : List (String × Operator) :=
  [("=", .eq), ("==", .eq), ("eq", .eq), ("!=", .neq), ("<>", .neq), ("neq", .neq), (">", .gt),
   ("gt", .gt), (">=", .gte), ("gte", .gte), ("<", .lt), ("lt", .lt), ("<=", .lte), ("lte", .lte),
   ("like", .like), ("not like", .notLike), ("not_like", .notLike), ("in", .isIn), ("in_", .isIn),
   ("not in", .notIn), ("not_in", .notIn), ("between", .between), ("is null", .isNull),
   ("is_null", .isNull), ("is not null", .isNotNull), ("is_not_null", .isNotNull)]

/-- The operator that a text spells. -/
def recognise? (s : String) : Option Operator := QueryDesk.recognise? spellings s

/-- What the operator compares with. -/
def arity : Operator → Arity
  | .isNull | .isNotNull => .nothing
  | .isIn | .notIn => .list
  | .between => .pair
  | _ => .scalar

/-- Whether the operator compares with a pattern. -/
def isPattern (o : Operator) : Bool := o == .like || o == .notLike

end Operator

/-- **What a filter compares with**: a list of values or one value. -/
inductive Operand where
  | list (values : List Cell)
  | scalar (value : Cell)
deriving DecidableEq

namespace Operand

/-- The bounds of a range: a list of exactly two values. -/
def range? : Operand → Option (Cell × Cell)
  | .list [low, high] => some (low, high)
  | _ => none

/-- The operand with the signs of zeros forgotten. -/
def plainZeros : Operand → Operand
  | .list values => .list (values.map Cell.plainZero)
  | .scalar value => .scalar value.plainZero

end Operand

/-- **A condition on a column.** -/
structure Filter where
  tableId : String
  column : String
  operator : Operator
  value : Option Operand
deriving DecidableEq

/-- **Whether the condition is ready**: it names a column, and the operand fits the operator. A
single value may not be null, nor empty as a pattern; a list may not be empty; bounds are two values
that are not null. -/
def Filter.isComplete (f : Filter) : Bool :=
  !f.column.isEmpty &&
  match f.operator.arity, f.value with
  | .nothing, _ => true
  | .scalar, some (.scalar .null) => false
  | .scalar, some (.scalar (.text s)) => !(f.operator.isPattern && s.isEmpty)
  | .scalar, some (.scalar _) => true
  | .list, some (.list values) => !values.isEmpty
  | .pair, some (.list values) => values.length == 2 && values.all fun v => !v.isNull
  | _, _ => false

end QueryDesk
