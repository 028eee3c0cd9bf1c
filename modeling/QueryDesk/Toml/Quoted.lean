import QueryDesk.Toml.Layout

/-! # Quoted texts in TOML

The four kinds of texts: on one line or on several, with escapes between quotation marks or without
between apostrophes. A text on several lines is closed by three marks; the one or two marks that may
stand right before them belong to the text.
-/

set_option autoImplicit false

namespace QueryDesk.Toml

open Text (Scan many run?)

/-- The apostrophe. -/
def apostrophe : Char := '\x27'

/-! ## Escapes -/

/-- The value of a hexadecimal digit. -/
def hexValue? (c : Char) : Option Nat :=
  if c.isDigit then some (c.toNat - 48)
  else if 'a' ≤ c ∧ c ≤ 'f' then some (c.toNat - 87)
  else if 'A' ≤ c ∧ c ≤ 'F' then some (c.toNat - 55)
  else none

/-- The number that hexadecimal digits stand for. -/
def hexNumber? (digits : List Char) : Option Nat :=
  (digits.mapM hexValue?).map fun values => values.foldl (fun n d => 16 * n + d) 0

/-- A character given by so many hexadecimal digits; half of a surrogate pair is none. -/
def codePoint? (count : Nat) : Scan (List Char) := fun cs =>
  let digits := cs.take count
  if digits.length < count then none
  else (hexNumber? digits).bind fun n =>
    if n.isValidChar then some ([Char.ofNat n], cs.drop count) else none

/-- The character that an escape stands for, read behind its backslash. -/
def escape? : Scan (List Char)
  | 'b' :: rest => some (['\x08'], rest)
  | 't' :: rest => some (['\t'], rest)
  | 'n' :: rest => some (['\n'], rest)
  | 'f' :: rest => some (['\x0c'], rest)
  | 'r' :: rest => some (['\r'], rest)
  | '"' :: rest => some (['"'], rest)
  | '\\' :: rest => some (['\\'], rest)
  | 'u' :: rest => codePoint? 4 rest
  | 'U' :: rest => codePoint? 8 rest
  | _ => none

/-! ## On one line -/

/-- A character of a text with escapes that stands for itself. -/
def isBasic (c : Char) : Bool := isPlain c && c != '"' && c != '\\'

/-- A character of a text without escapes. -/
def isLiteral (c : Char) : Bool := isPlain c && c != apostrophe

/-- A piece of a text with escapes: an escape, or characters that stand for themselves. -/
def basicPiece? : Scan (List Char)
  | '\\' :: rest => escape? rest
  | cs => run? isBasic cs

/-- A text on one line with escapes, read behind its first quotation mark. -/
def basicText? : Scan String := fun cs =>
  match many basicPiece? cs with
  | (pieces, '"' :: rest) => some (String.ofList pieces.flatten, rest)
  | _ => none

/-- A text on one line without escapes, read behind its first apostrophe. -/
def literalText? : Scan String := fun cs =>
  match cs.dropWhile isLiteral with
  | c :: rest =>
    if c = apostrophe then some (String.ofList (cs.takeWhile isLiteral), rest) else none
  | [] => none

/-! ## On several lines -/

/-- How often a mark stands at the front of a text. -/
def countMarks (mark : Char) (cs : List Char) : Nat := (cs.takeWhile (· == mark)).length

/-- One or two marks that do not close the text. -/
def fewMarks? (mark : Char) : Scan (List Char) := fun cs =>
  let count := countMarks mark cs
  if 0 < count && count < 3 then some (List.replicate count mark, cs.drop count) else none

/-- The end of a line inside a text, which counts as a line feed however it is written. -/
def innerNewline? : Scan (List Char) := fun cs => (newline? cs).map fun rest => (['\n'], rest)

/-- A backslash at the end of a line takes away all blanks and ends of lines up to the next
character; read behind the backslash. -/
def lineContinuation? : Scan (List Char) := fun cs =>
  (newline? (skipSpaces cs)).map fun rest =>
    let blankLine? : Scan Unit := fun cs => (newline? (skipSpaces cs)).map fun rest => ((), rest)
    ([], skipSpaces (many blankLine? rest).2)

/-- A piece of a text with escapes on several lines. -/
def basicLinePiece? : Scan (List Char)
  | '\\' :: rest => (lineContinuation? rest).or (escape? rest)
  | cs => ((innerNewline? cs).or (fewMarks? '"' cs)).or (basicPiece? cs)

/-- A piece of a text without escapes on several lines. -/
def literalLinePiece? : Scan (List Char) := fun cs =>
  ((innerNewline? cs).or (fewMarks? apostrophe cs)).or (run? isLiteral cs)

/-- A text on several lines, read behind its three opening marks. An end of a line right behind them
does not belong to it; of up to five marks at its end the last three close it. -/
def linesText? (mark : Char) (piece : Scan (List Char)) : Scan String := fun cs =>
  let (pieces, rest) := many piece ((newline? cs).getD cs)
  let marks := min (countMarks mark rest) 5
  if marks < 3 then none
  else some (String.ofList (pieces.flatten ++ List.replicate (marks - 3) mark), rest.drop marks)

/-! ## All kinds -/

/-- A text on one line, of either kind. -/
def lineText? : Scan String
  | [] => none
  | c :: rest =>
    if c = '"' then basicText? rest
    else if c = apostrophe then literalText? rest
    else none

/-- **A quoted text** of any kind. -/
def quoted? : Scan String := fun cs =>
  if 3 ≤ countMarks '"' cs then linesText? '"' basicLinePiece? (cs.drop 3)
  else if 3 ≤ countMarks apostrophe cs then linesText? apostrophe literalLinePiece? (cs.drop 3)
  else lineText? cs

end QueryDesk.Toml
