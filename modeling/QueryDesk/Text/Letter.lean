/-! # Letter case

Words of this library are ASCII and are met in any letter case. `lowered` gives the lower-case form
of a text as far as such words can tell: besides `A`–`Z` only two characters have a lower case with
an ASCII letter in it, the KELVIN SIGN and the capital I with a dot; every other character stays as
it is, because neither it nor its lower case occurs in an ASCII word.
-/

set_option autoImplicit false

namespace QueryDesk.Text

/-- The lower case of one character, as far as ASCII words can tell. -/
def loweredChar (c : Char) : List Char :=
  if c.toNat == 0x212A then ['k']
  else if c.toNat == 0x130 then ['i', Char.ofNat 0x307]
  else [c.toLower]

/-- **The lower case of a text**, as far as ASCII words can tell. -/
def lowered (s : String) : List Char := s.toList.flatMap loweredChar

/-- Whether `word` stands somewhere in `cs`. -/
def contains (word : List Char) : List Char → Bool
  | [] => word.isEmpty
  | c :: cs => word.isPrefixOf (c :: cs) || contains word cs

end QueryDesk.Text
