/-! # Paths

A path is a row of names with slashes between them. Empty names and single dots lead nowhere, so
they are passed over; a slash in front makes a path start from the root of all files.
-/

set_option autoImplicit false

namespace QueryDesk.Path

/-- Whether a name leads nowhere. -/
def isIdle (name : String) : Bool := name == "" || name == "."

/-- The names in a path that lead somewhere. -/
def names (path : String) : List String := (path.splitOn "/").filter fun name => !isIdle name

/-- Whether a path starts from the root of all files. -/
def isAbsolute (path : String) : Bool := path.startsWith "/"

/-- The directory that a path lies in: the path up to its last name but one. It is empty for a name
in the directory at hand. -/
def parent (path : String) : String :=
  let last := (path.splitOn "/").reverse.dropWhile isIdle
  let rest := (last.drop 1).dropWhile isIdle
  if rest.isEmpty && isAbsolute path then "/" else "/".intercalate rest.reverse

/-- Whether a path can only be a directory, because it ends in a slash or in dots. -/
def endsInDirectory (path : String) : Bool :=
  match (path.splitOn "/").getLast? with
  | some last => last == "" || last == "." || last == ".."
  | none => true

/-- The most bytes of a name. -/
def nameLimit : Nat := 255

/-- Paths are shorter than this, in bytes. -/
def lengthLimit : Nat := 4096

/-- Whether a name is short enough to be given to a file. -/
def isName (name : String) : Bool := name.utf8ByteSize ≤ nameLimit

/-- Whether a path can be followed at all: it is short enough and holds no null character. -/
def isPath (path : String) : Bool :=
  path.utf8ByteSize < lengthLimit && !path.toList.contains '\x00'

end QueryDesk.Path
