import QueryDesk.Json.Basic
import QueryDesk.Number.NumberText

/-! # Written JSON

The two ways a value is written: `compact` without any gaps, and `pretty` with a line for every item
and member, indented by two spaces a level. Both write strings and numbers alike.
-/

set_option autoImplicit false

namespace QueryDesk.Json

/-- **Numbers in JSON**: shortest digits, a tie to the even one; plain from `0.00001` up to below
`1e+16`, where a whole number ends in `.0`. -/
def numberStyle : NumberStyle := ⟨-5, 16, true, .toEven⟩

/-- A hexadecimal digit in lower case. -/
def hexDigit (n : Nat) : Char := Char.ofNat (if n < 10 then 48 + n else 87 + n)

/-- **How a character is written in a string**: quotes, backslashes and control characters are
escaped, every other character stands for itself. -/
def escapeChar (c : Char) : List Char :=
  match c with
  | '"' => ['\\', '"']
  | '\\' => ['\\', '\\']
  | '\x08' => ['\\', 'b']
  | '\x0c' => ['\\', 'f']
  | '\n' => ['\\', 'n']
  | '\r' => ['\\', 'r']
  | '\t' => ['\\', 't']
  | c =>
    if c.toNat < 0x20 then
      ['\\', 'u', '0', '0', hexDigit (c.toNat / 16), hexDigit (c.toNat % 16)]
    else [c]

/-- A string with its quotes. -/
def quoted (s : String) : List Char := '"' :: s.toList.flatMap escapeChar ++ ['"']

/-- A number; a double that is no number is written as null. -/
def numeralText : Numeral → List Char
  | .natural n => Text.natText n.toNat
  | .negative n => '-' :: Text.natText n.toNat
  | .double x => if x.isFinite then x.text numberStyle else ['n', 'u', 'l', 'l']

/-- A value that is no container. -/
def scalarText : Json → List Char
  | .bool true => ['t', 'r', 'u', 'e']
  | .bool false => ['f', 'a', 'l', 's', 'e']
  | .number n => numeralText n
  | .text s => quoted s
  | _ => ['n', 'u', 'l', 'l']

/-! ## Without gaps -/

mutual

/-- **A value without gaps.** -/
def compact : Json → List Char
  | .array items => '[' :: compactItems items
  | .object members => '\x7b' :: compactMembers members
  | v => scalarText v

/-- The items of an array and its end. -/
def compactItems : List Json → List Char
  | [] => [']']
  | v :: rest => compact v ++ compactMoreItems rest

/-- Further items of an array and its end. -/
def compactMoreItems : List Json → List Char
  | [] => [']']
  | v :: rest => ',' :: compact v ++ compactMoreItems rest

/-- The members of an object and its end. -/
def compactMembers : List (String × Json) → List Char
  | [] => ['\x7d']
  | (key, v) :: rest => quoted key ++ ':' :: compact v ++ compactMoreMembers rest

/-- Further members of an object and its end. -/
def compactMoreMembers : List (String × Json) → List Char
  | [] => ['\x7d']
  | (key, v) :: rest => ',' :: quoted key ++ ':' :: compact v ++ compactMoreMembers rest

end

/-! ## A line for every item -/

/-- The start of a line at a level of nesting. -/
def newLine (level : Nat) : List Char := '\n' :: List.replicate (2 * level) ' '

mutual

/-- A value at a level of nesting, with a line for every item and member. -/
def prettyAt (level : Nat) : Json → List Char
  | .array [] => ['[', ']']
  | .array (v :: rest) =>
    '[' :: newLine (level + 1) ++ prettyAt (level + 1) v ++ prettyMoreItems level rest
  | .object [] => ['\x7b', '\x7d']
  | .object ((key, v) :: rest) =>
    '\x7b' :: newLine (level + 1) ++ quoted key ++ ':' :: ' ' :: prettyAt (level + 1) v ++
      prettyMoreMembers level rest
  | v => scalarText v

/-- Further items of an array at a level, and its end. -/
def prettyMoreItems (level : Nat) : List Json → List Char
  | [] => newLine level ++ [']']
  | v :: rest =>
    ',' :: newLine (level + 1) ++ prettyAt (level + 1) v ++ prettyMoreItems level rest

/-- Further members of an object at a level, and its end. -/
def prettyMoreMembers (level : Nat) : List (String × Json) → List Char
  | [] => newLine level ++ ['\x7d']
  | (key, v) :: rest =>
    ',' :: newLine (level + 1) ++ quoted key ++ ':' :: ' ' :: prettyAt (level + 1) v ++
      prettyMoreMembers level rest

end

/-- **A value with a line for every item and member.** -/
def pretty (v : Json) : List Char := prettyAt 0 v

/-- The value without gaps, as a string. -/
def toCompact (v : Json) : String := String.ofList v.compact

/-- The value with a line for every item and member, as a string. -/
def toPretty (v : Json) : String := String.ofList v.pretty

/-! ## Sorted members -/

/-- A member put into members sorted by key; a key that is there already gets the new value. -/
def insertMember (key : String) (v : Json) : List (String × Json) → List (String × Json)
  | [] => [(key, v)]
  | (k, w) :: rest =>
    if key < k then (key, v) :: (k, w) :: rest
    else if key = k then (key, v) :: rest
    else (k, w) :: insertMember key v rest

mutual

/-- The value with the members of its objects sorted by key, of a repeated key the last. -/
def sorted : Json → Json
  | .array items => .array (sortedItems items)
  | .object members => .object (sortedMembers [] members)
  | v => v

def sortedItems : List Json → List Json
  | [] => []
  | v :: rest => sorted v :: sortedItems rest

def sortedMembers (done : List (String × Json)) : List (String × Json) → List (String × Json)
  | [] => done
  | (key, v) :: rest => sortedMembers (insertMember key (sorted v) done) rest

end

end QueryDesk.Json
