import QueryDesk.Number.Double

/-! # TOML values

A TOML value. A table remembers how it came about, because that decides whether later lines of a
document may add to it; so does an array, which may be made of headers, one for each element.
-/

set_option autoImplicit false

namespace QueryDesk

/-- **How a table came about**: as one value in braces, by a header of its own, by keys with dots, or
on the way to a table with a header. -/
inductive TableOrigin where
  | braces
  | header
  | dots
  | passage
deriving DecidableEq

/-- **A TOML value.** Of a date or time it is only known that it is one. -/
inductive Toml where
  | text (s : String)
  | integer (n : Int)
  | float (x : Double)
  | bool (b : Bool)
  | time
  | array (byHeaders : Bool) (items : List Toml)
  | table (origin : TableOrigin) (members : List (String × Toml))

namespace Toml

/-- The members of a table. -/
abbrev Members := List (String × Toml)

/-- How deep containers and how long dotted keys may be: below eighty. -/
def nestingLimit : Nat := 79

end Toml

end QueryDesk
