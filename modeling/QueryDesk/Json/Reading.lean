import QueryDesk.Json.Token

/-! # Reading JSON values

Tokens are put together by a machine that keeps the containers it is inside of in a list, so a text
may nest as deep as it likes. `Reading.step` says for each state which tokens may come next;
`Json.parse?` reads a text that holds exactly one value.
-/

set_option autoImplicit false

namespace QueryDesk.Json

/-- The members of an object read so far, last first; `none` once a key could not be held. -/
abbrev MembersSoFar := Option (List (String × Json))

/-- A container around the value that is being read, with what was read of it, last first. -/
inductive Frame where
  | items (done : List Json)
  | member (done : MembersSoFar) (key : Option String)

/-- **What has been read and what may come next.** -/
inductive Reading where
  /-- A value must come. -/
  | value (outer : List Frame)
  /-- An array was opened: a value or its end. -/
  | firstItem (outer : List Frame)
  /-- A value of an array ended: a comma or the end of the array. -/
  | afterItem (done : List Json) (outer : List Frame)
  /-- An object was opened: a key or its end. -/
  | firstKey (outer : List Frame)
  /-- A comma in an object: a key must come. -/
  | nextKey (done : MembersSoFar) (outer : List Frame)
  /-- A key ended: a colon must come. -/
  | colon (done : MembersSoFar) (key : Option String) (outer : List Frame)
  /-- A member ended: a comma or the end of the object. -/
  | afterMember (done : MembersSoFar) (outer : List Frame)
  /-- The one value is complete: nothing may come. -/
  | complete (v : Json)

namespace Reading

/-- A member more, unless one of the keys could not be held. -/
def addMember (done : MembersSoFar) (key : Option String) (v : Json) : MembersSoFar :=
  match done, key with
  | some members, some key => some ((key, v) :: members)
  | _, _ => none

/-- A value ended: it goes into the container around it. -/
def deliver (v : Json) : List Frame → Reading
  | [] => .complete v
  | .items done :: outer => .afterItem (v :: done) outer
  | .member done key :: outer => .afterMember (addMember done key v) outer

/-- An array ended. -/
def endArray (done : List Json) (outer : List Frame) : Reading :=
  deliver (.array done.reverse) outer

/-- An object ended; one with a key that cannot be held cannot be held itself. -/
def endObject (done : MembersSoFar) (outer : List Frame) : Reading :=
  match done with
  | some members => deliver (.object members.reverse) outer
  | none => deliver .unheld outer

/-- A token where a value must come. -/
def startValue (outer : List Frame) : Token → Option Reading
  | .openArray => some (.firstItem outer)
  | .openObject => some (.firstKey outer)
  | .null => some (deliver .null outer)
  | .bool b => some (deliver (.bool b) outer)
  | .number (some n) => some (deliver (.number n) outer)
  | .number none => some (deliver .unheld outer)
  | .text (some s) => some (deliver (.text s) outer)
  | .text none => some (deliver .unheld outer)
  | _ => none

/-- **One token.** -/
def step : Reading → Token → Option Reading
  | .value outer, t => startValue outer t
  | .firstItem outer, .closeArray => some (endArray [] outer)
  | .firstItem outer, t => startValue (.items [] :: outer) t
  | .afterItem done outer, .comma => some (.value (.items done :: outer))
  | .afterItem done outer, .closeArray => some (endArray done outer)
  | .firstKey outer, .closeObject => some (endObject (some []) outer)
  | .firstKey outer, .text key => some (.colon (some []) key outer)
  | .nextKey done outer, .text key => some (.colon done key outer)
  | .colon done key outer, .colon => some (.value (.member done key :: outer))
  | .afterMember done outer, .comma => some (.nextKey done outer)
  | .afterMember done outer, .closeObject => some (endObject done outer)
  | _, _ => none

/-- Tokens in a row. -/
def run (r : Reading) : List Token → Option Reading
  | [] => some r
  | t :: rest => (step r t).bind (run · rest)

end Reading

/-- The value that a row of tokens makes up. -/
def ofTokens? (tokens : List Token) : Option Json :=
  match Reading.run (.value []) tokens with
  | some (.complete v) => some v
  | _ => none

/-- **The value of a JSON text.** -/
def parse? (s : String) : Option Json := (lex? s.toList).bind ofTokens?

end QueryDesk.Json
