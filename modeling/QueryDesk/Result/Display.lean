import QueryDesk.Result.Cell
import QueryDesk.Calendar.Reading

/-! # Shown cells

How a cell is shown in a table: null as nothing, numbers as their keys, and date-like text as a
pattern asks for it where there is a pattern.
-/

set_option autoImplicit false

namespace QueryDesk

/-- **The cell as it is shown**, date-like text by the pattern if there is one. -/
def Cell.shown (pattern : Option String) : Cell → String
  | .null => ""
  | .text s => (pattern.bind fun p => reformatDate? s p).getD s
  | c => c.key

end QueryDesk
