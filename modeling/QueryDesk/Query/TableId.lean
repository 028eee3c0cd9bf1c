import QueryDesk.Query.Basic
import QueryDesk.Text.DecimalDigit

/-! # Table ids

Tables of a query get the ids `t1`, `t2`, …. A new id is one past the highest number in use, so gaps
are not filled, but removing the highest table frees its id.
-/

set_option autoImplicit false

namespace QueryDesk.TableId

/-- **The number of an id**: what follows the `t`, read as a number of 32 bits. A plus sign and
leading zeros are fine; ids of any other form have no number. -/
def number? (id : String) : Option Nat :=
  match id.toList with
  | 't' :: digits => Text.readUnsigned? UInt32.size digits
  | _ => none

/-- The id with a number. -/
def ofNumber (n : Nat) : String := String.ofList ('t' :: Text.natText n)

/-- The highest number among ids, or zero. -/
def highest (ids : List String) : Nat := (ids.filterMap number?).foldl max 0

end QueryDesk.TableId

namespace QueryDesk

/-- **The id of the next table** of a query. It is counted without a bound: behind 4294967295, the
last number of 32 bits, an addition in 32 bits would overflow, and the id given here has no
number. -/
def Query.nextTableId (q : Query) : String :=
  TableId.ofNumber (TableId.highest (q.tables.map QueryTable.id) + 1)

end QueryDesk
