import QueryDesk.Toml.Scalar
import QueryDesk.Toml.Table

/-! # TOML documents

A document is a row of statements: empty lines, headers of tables and of elements of arrays of
tables, and entries, which go into the table of the last header. `Toml.parse?` gives the members of
the root table.
-/

set_option autoImplicit false

namespace QueryDesk.Toml

open Text (Scan many run? exactChar?)

/-! ## Keys -/

/-- A character of a key without quotes. -/
def isBareKey (c : Char) : Bool := c.isAlphanum || c == '-' || c == '_'

/-- A key without dots, with the blanks around it. -/
def simpleKey? : Scan String := fun cs => do
  let cs := skipSpaces cs
  let (key, rest) ← (lineText? cs).or ((run? isBareKey cs).map fun (key, rest) =>
    (String.ofList key, rest))
  some (key, skipSpaces rest)

/-- A further key behind a dot. -/
def dottedKey? : Scan String := fun cs => (exactChar? '.' cs).bind simpleKey?

/-- **Keys with dots between them.** -/
def keys? : Scan (List String) := fun cs => do
  let (key, rest) ← simpleKey? cs
  let (more, rest) := many dottedKey? rest
  if more.length < nestingLimit then some (key :: more, rest) else none

/-! ## Values -/

/-- A value of an array, with what stands around it. -/
def arrayItem? (value : Scan Toml) : Scan Toml := fun cs =>
  (value (skipLines cs)).map fun (v, rest) => (v, skipLines rest)

/-- A further value of an array behind a comma. -/
def nextArrayItem? (value : Scan Toml) : Scan Toml := fun cs =>
  (exactChar? ',' cs).bind (arrayItem? value)

/-- The values of an array, with the comma that may follow the last. -/
def arrayItems (value : Scan Toml) (cs : List Char) : List Toml × List Char :=
  match arrayItem? value cs with
  | none => ([], cs)
  | some (first, rest) =>
    let (more, rest) := many (nextArrayItem? value) rest
    (first :: more, (exactChar? ',' rest).getD rest)

/-- An array, read behind its opening bracket. -/
def array? (value : Scan Toml) : Scan Toml := fun cs => do
  let (items, rest) := arrayItems value cs
  let rest ← exactChar? ']' (skipLines rest)
  some (.array false items, rest)

/-- An entry between braces: keys, an equals sign and a value. -/
def keyed? (value : Scan Toml) : Scan (List String × Toml) := fun cs => do
  let (keys, rest) ← keys? cs
  let rest ← exactChar? '=' rest
  let (v, rest) ← value (skipSpaces rest)
  some ((keys, v), skipSpaces rest)

/-- A further entry behind a comma. -/
def nextKeyed? (value : Scan Toml) : Scan (List String × Toml) := fun cs =>
  (exactChar? ',' cs).bind (keyed? value)

/-- A table in braces, read behind its opening brace. -/
def braces? (value : Scan Toml) : Scan Toml := fun cs =>
  match exactChar? '\x7d' (skipSpaces cs) with
  | some rest => some (.table .braces [], rest)
  | none => do
    let (first, rest) ← keyed? value cs
    let (more, rest) := many (nextKeyed? value) rest
    let rest ← exactChar? '\x7d' rest
    let table ← ofEntries? (first :: more)
    some (table, rest)

/-- **A value** in which containers nest at most so deep. -/
def value? : Nat → Scan Toml
  | 0 => scalar?
  | depth + 1 => fun cs =>
    match cs with
    | '[' :: rest => array? (value? depth) rest
    | '\x7b' :: rest => braces? (value? depth) rest
    | _ => scalar? cs

/-! ## Statements -/

/-- **A statement of a document.** -/
inductive Statement where
  | empty
  | table (keys : List String)
  | element (keys : List String)
  | entry (keys : List String) (v : Toml)

/-- The header of an element, read behind its two brackets. -/
def elementHeader? : Scan Statement := fun cs => do
  let (keys, rest) ← keys? cs
  let rest ← exactChar? ']' rest
  let rest ← exactChar? ']' rest
  let rest ← endOfStatement? rest
  some (.element keys, rest)

/-- The header of a table, read behind its bracket. -/
def tableHeader? : Scan Statement := fun cs => do
  let (keys, rest) ← keys? cs
  let rest ← exactChar? ']' rest
  let rest ← endOfStatement? rest
  some (.table keys, rest)

/-- An entry as a statement. -/
def entryStatement? : Scan Statement := fun cs => do
  let ((keys, v), rest) ← keyed? (value? nestingLimit) cs
  let rest ← endOfStatement? rest
  some (.entry keys v, rest)

/-- A statement. -/
def statement? : Scan Statement := fun cs =>
  match skipSpaces cs with
  | [] => none
  | '[' :: '[' :: rest => elementHeader? rest
  | '[' :: rest => tableHeader? rest
  | '#' :: rest => (endOfStatement? ('#' :: rest)).map fun rest => (.empty, rest)
  | '\n' :: rest => some (.empty, rest)
  | '\r' :: '\n' :: rest => some (.empty, rest)
  | rest => entryStatement? rest

/-! ## Documents -/

/-- **A document so far**: the members of the root table, and the path of the last header. -/
structure Draft where
  root : Members
  current : List String

/-- One statement more. -/
def Draft.add (d : Draft) : Statement → Option Draft
  | .empty => some d
  | .table keys => do
    let (path, key) ← splitKeys? keys
    let root ← changeAt .header (fun _ => openTable key) path .header d.root
    some ⟨root, keys⟩
  | .element keys => do
    let (path, key) ← splitKeys? keys
    let root ← changeAt .header (fun _ => openElement key) path .header d.root
    some ⟨root, keys⟩
  | .entry keys v => do
    let root ← changeAt .header (addKeyed keys v) d.current .header d.root
    some { d with root }

/-- The text without the byte order mark it may begin with. -/
def skipMark : List Char → List Char
  | [] => []
  | c :: cs => if c.toNat = 0xFEFF then cs else c :: cs

/-- **The root table of a document.** -/
def parse? (s : String) : Option Toml := do
  let (statements, rest) := many statement? (skipMark s.toList)
  if (skipSpaces rest).isEmpty then
    let draft ← statements.foldlM Draft.add ⟨[], []⟩
    some (.table .header draft.root)
  else none

end QueryDesk.Toml
