import QueryDesk.Json.Written
import QueryDesk.Json.Reading
import QueryDesk.Number.Reading
import QueryDesk.Text.Blank

/-! # Cells

The values in the rows of a result, and the operands of filters: null, a truth value, a number or a
text. `Cell.key` is the text by which cells are grouped and counted; `Cell.number?` reads a number
out of a cell, also out of text, in which many databases send exact decimals.
-/

set_option autoImplicit false

namespace QueryDesk

/-- **A cell.** -/
inductive Cell where
  | null
  | bool (b : Bool)
  | number (x : Double)
  | text (s : String)
deriving DecidableEq

/-- **Numbers as keys**: shortest digits, of two equally near the upper one, never an exponent and
no point behind a whole number. -/
def keyStyle : NumberStyle := ⟨-400, 400, false, .up⟩

/-- The text of a number as a key: a whole number below `10 ^ 15` in its digits, so that both zeros
are `0`, every other number in the style of keys. -/
def Double.keyText (x : Double) : List Char :=
  match x with
  | .finite negative m =>
    if m.isWhole && m.floor < tenTo 15 then
      (if negative && m.floor != 0 then ['-'] else []) ++ Text.natText m.floor
    else x.text keyStyle
  | _ => x.text keyStyle

namespace Cell

instance : Inhabited Cell := ⟨.null⟩

/-- Whether the cell is null. -/
def isNull (c : Cell) : Bool := c == .null

/-- **The number in a cell**: a number itself, or a text that spells a finite number between
blanks. -/
def number? : Cell → Option Double
  | .number x => some x
  | .text s => (Double.read? (Text.trim s.toList)).filter Double.isFinite
  | _ => none

/-- The text in a cell. -/
def text? : Cell → Option String
  | .text s => some s
  | _ => none

/-- **The text that cells are grouped and counted by.** -/
def key : Cell → String
  | .null => "null"
  | .bool true => "true"
  | .bool false => "false"
  | .number x => String.ofList x.keyText
  | .text s => s

/-- The cell with the sign of a zero forgotten. -/
def plainZero : Cell → Cell
  | .number x => .number x.plainZero
  | c => c

/-! ## In JSON -/

/-- The cell in JSON. -/
def toJson : Cell → Json
  | .null => .null
  | .bool b => .bool b
  | .number x => .double x
  | .text s => .text s

/-- A cell read from JSON, where a container is none. -/
def ofJson? : Json → Option Cell
  | .null => some .null
  | .bool b => some (.bool b)
  | .number n => some (.number n.toDouble)
  | .text s => some (.text s)
  | _ => none

/-- **A cell made of any JSON value**: a container becomes its text, with sorted members. -/
def ofValue : Json → Cell
  | .null => .null
  | .bool b => .bool b
  | .number n => .number n.toDouble
  | .text s => .text s
  | v => .text v.sorted.toCompact

end Cell

end QueryDesk
