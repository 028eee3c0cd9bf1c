import QueryDesk.Text.DecimalDigit

/-! # Scanners

A scanner takes what it knows from the front of a text and gives back its meaning and the rest of
the text. `many` and `repeated?` repeat a scanner for as long as it takes something, which bounds the
repetition by the length of the text; they differ in what an item means that takes nothing.
-/

set_option autoImplicit false

namespace QueryDesk.Text

/-- **A scanner**: what stands at the front of a text, and what follows it. -/
abbrev Scan (α : Type) := List Char → Option (α × List Char)

variable {α : Type}

/-- **As many items as there are.** An item that takes nothing ends them. -/
def many (item : Scan α) (cs : List Char) : List α × List Char :=
  match item cs with
  | none => ([], cs)
  | some (a, rest) =>
    if rest.length < cs.length then
      let more := many item rest
      (a :: more.1, more.2)
    else ([], cs)
termination_by cs.length

/-- **Items one after the other until one fails.** An item that takes nothing before that is an
error. -/
def repeated? (item : Scan α) (cs : List Char) : Option (List α × List Char) :=
  match item cs with
  | none => some ([], cs)
  | some (a, rest) =>
    if rest.length < cs.length then
      (repeated? item rest).map fun more => (a :: more.1, more.2)
    else none
termination_by cs.length

/-- What follows one given character. -/
def exactChar? (c : Char) : List Char → Option (List Char)
  | d :: rest => if d = c then some rest else none
  | [] => none

/-- What follows a given word. -/
def exactWord? (word cs : List Char) : Option (List Char) :=
  if word.isPrefixOf cs then some (cs.drop word.length) else none

/-- Any character. -/
def anyChar? : Scan Char
  | [] => none
  | c :: rest => some (c, rest)

/-- At least one character of a class. -/
def run? (isIn : Char → Bool) : Scan (List Char) := fun cs =>
  if (cs.takeWhile isIn).isEmpty then none else some (cs.takeWhile isIn, cs.dropWhile isIn)

/-- Exactly so many ASCII digits. -/
def exactDigits? (count : Nat) : Scan Nat := fun cs =>
  let digits := cs.take count
  if digits.length = count ∧ digits.all Char.isDigit then
    some (digitsValue digits, cs.drop count)
  else none

end QueryDesk.Text
