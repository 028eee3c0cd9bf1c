import QueryDesk.Surroundings.File
import QueryDesk.Surroundings.Transport

/-! # Dialogues

A program as a dialogue with its surroundings: it is done, or it asks for one thing and says how it
goes on with the answer. Nothing happens in a dialogue itself, so one dialogue can be carried out on
a machine, rehearsed against a script, or reasoned about.
-/

set_option autoImplicit false

namespace QueryDesk

/-- The longest pause in milliseconds, thirty years; a longer one ends then. -/
def longestPause : Nat := 30 * 365 * 24 * 60 * 60 * 1000

/-- **A dialogue** that ends with an answer. -/
inductive Dialogue (α : Type) where
  | done (answer : α)
  /-- Send a request. -/
  | request (r : Request) (next : Outcome → Dialogue α)
  /-- Wait for so many milliseconds. -/
  | pause (ms : Nat) (next : Dialogue α)
  /-- Look what a path holds. -/
  | read (path : String) (next : FileContent → Dialogue α)
  /-- Write a file, with the directories it lies in; the answer tells whether it worked. -/
  | save (path text : String) (next : Bool → Dialogue α)
  /-- Write to the output. -/
  | print (text : String) (next : Dialogue α)

namespace Dialogue

variable {α β : Type}

/-- One dialogue after another. -/
def bind : Dialogue α → (α → Dialogue β) → Dialogue β
  | .done a, f => f a
  | .request r next, f => .request r fun o => (next o).bind f
  | .pause ms next, f => .pause ms (next.bind f)
  | .read path next, f => .read path fun c => (next c).bind f
  | .save path text next, f => .save path text fun b => (next b).bind f
  | .print text next, f => .print text (next.bind f)

instance : Monad Dialogue where
  pure := .done
  bind := .bind

/-- Send a request. -/
def ask (r : Request) : Dialogue Outcome := .request r .done

/-- Wait for so many milliseconds. -/
def wait (ms : Nat) : Dialogue Unit := .pause ms (.done ())

/-- Look what a path holds. -/
def look (path : String) : Dialogue FileContent := .read path .done

/-- Write a file. -/
def store (path text : String) : Dialogue Bool := .save path text .done

/-- Write a line to the output. -/
def printLine (line : String) : Dialogue Unit := .print (line ++ "\n") (.done ())

/-- Write lines to the output. -/
def printLines : List String → Dialogue Unit
  | [] => .done ()
  | line :: rest => .print (line ++ "\n") (printLines rest)

end Dialogue

end QueryDesk
