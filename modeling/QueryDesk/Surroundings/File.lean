/-! # Files and the environment

What the program finds around it: the content of files and the variables of the environment.
-/

set_option autoImplicit false

namespace QueryDesk

/-- **What is found at a path.** What is not UTF-8 is unreadable, and so is a directory. -/
inductive FileContent where
  | missing
  | unreadable
  | text (s : String)
deriving DecidableEq

/-- The text of a file that can be read. -/
def FileContent.text? : FileContent → Option String
  | .text s => some s
  | _ => none

/-- **The environment**: the values of its variables. -/
abbrev Environment := String → Option String

end QueryDesk
