import QueryDesk.Text.Scan

/-! # Layout of TOML texts

What stands between the parts of a TOML text: blanks within a line, the ends of lines, comments.
-/

set_option autoImplicit false

namespace QueryDesk.Toml

open Text (Scan many)

/-- A blank within a line. -/
def isSpace (c : Char) : Bool := c == ' ' || c == '\t'

/-- A character that may stand in a comment or a text: every one but the control characters, of
which the tab may. -/
def isPlain (c : Char) : Bool := c == '\t' || (0x20 ≤ c.toNat && c.toNat != 0x7F)

/-- The text without the blanks it begins with. -/
def skipSpaces (cs : List Char) : List Char := cs.dropWhile isSpace

/-- What follows the end of a line: a line feed, with or without a carriage return before it. -/
def newline? : List Char → Option (List Char)
  | '\n' :: rest => some rest
  | '\r' :: '\n' :: rest => some rest
  | _ => none

/-- The text without the comment it begins with, if it begins with one. -/
def skipComment : List Char → List Char
  | '#' :: rest => rest.dropWhile isPlain
  | cs => cs

/-- What follows an empty line, which may hold a comment. -/
def emptyLine? : Scan Unit := fun cs =>
  (newline? (skipComment (skipSpaces cs))).map fun rest => ((), rest)

/-- The text without the blanks, comments and ends of lines it begins with. -/
def skipLines (cs : List Char) : List Char := skipSpaces (many emptyLine? cs).2

/-- What follows the end of a statement: blanks, perhaps a comment, and the end of the line or of
the text. -/
def endOfStatement? (cs : List Char) : Option (List Char) :=
  match skipComment (skipSpaces cs) with
  | [] => some []
  | rest => newline? rest

end QueryDesk.Toml
