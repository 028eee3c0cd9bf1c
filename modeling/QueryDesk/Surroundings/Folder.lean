import QueryDesk.Surroundings.File
import QueryDesk.Surroundings.Path

/-! # Files in memory

Directories and files, each at the place that names lead to. A path is followed name by name, and
every name but the last has to lead to a directory, also where two dots lead back up again. Above
the directory at hand there are directories without end, of which nothing else is known.
-/

set_option autoImplicit false

namespace QueryDesk

/-- **A place** of a file or a directory: the names that lead to it from the directory at hand. They
begin with two dots as often as it lies above, or with a slash if it is reached from the root. -/
abbrev Place := List String

/-- The place of the root of all files. -/
def Place.root : Place := ["/"]

/-- Whether a place is the directory at hand or lies above it. -/
def Place.isAbove (place : Place) : Bool := place.all fun name => name == ".."

/-- **The place that a name leads to** from a directory; two dots lead up, and the root is above
itself. -/
def Place.step (here : Place) (name : String) : Place :=
  if name != ".." || here.isAbove then here ++ [name]
  else if here = .root then here
  else here.dropLast

/-- Where a path starts. -/
def Place.ofPath (path : String) : Place := if Path.isAbsolute path then .root else []

/-- **Files in memory**: the places of directories, and of files with their texts. -/
structure Folder where
  directories : List Place
  files : List (Place × String)

namespace Folder

/-- No files. -/
def empty : Folder := ⟨[], []⟩

/-- Whether there is a directory at a place. -/
def hasDirectory (f : Folder) (place : Place) : Bool :=
  place.isAbove || place == .root || f.directories.contains place

/-- The text of the file at a place. -/
def file? (f : Folder) (place : Place) : Option String := f.files.lookup place

/-- **The directory that names lead to**, each of them a directory. -/
def walk (f : Folder) (here : Place) : List String → Option Place
  | [] => some here
  | name :: rest =>
    if f.hasDirectory (here.step name) then f.walk (here.step name) rest else none

/-- The directory that names lead to, with those on the way made that are missing. It stops at a file
and at a name that is too long; what was made before that stays. -/
def makeWay (f : Folder) (here : Place) : List String → Folder × Option Place
  | [] => (f, some here)
  | name :: rest =>
    let next := here.step name
    if f.hasDirectory next then f.makeWay next rest
    else if Path.isName name && (f.file? next).isNone then
      makeWay { f with directories := next :: f.directories } next rest
    else (f, none)

/-- What is found at the last name of a path, in the directory that the others lead to. -/
def lookAt (f : Folder) (path : String) (here : Place) (name : String) : FileContent :=
  if f.hasDirectory (here.step name) then .unreadable
  else match f.file? (here.step name) with
    | some s => if Path.endsInDirectory path then .missing else .text s
    | none => .missing

/-- **What a path holds.** -/
def look (f : Folder) (path : String) : FileContent :=
  if !Path.isPath path then .missing
  else match f.walk (.ofPath path) (Path.names path).dropLast, (Path.names path).getLast? with
    | some here, some name => f.lookAt path here name
    | some _, none => .unreadable
    | none, _ => .missing

/-- The folder with a text at a place instead of what was there. -/
def put (f : Folder) (place : Place) (text : String) : Folder :=
  { f with files := (place, text) :: f.files.filter fun file => file.1 != place }

/-- **A file written** with the directories it lies in, and whether that worked. The directories are
made first, and they stay where only the whole path cannot be followed. -/
def store (f : Folder) (path text : String) : Folder × Bool :=
  if !Path.isPath (Path.parent path) then (f, false)
  else match f.makeWay (.ofPath path) (Path.names path).dropLast, (Path.names path).getLast? with
    | (f, some here), some name =>
      if !Path.isPath path || !Path.isName name || Path.endsInDirectory path ||
          f.hasDirectory (here.step name) then
        (f, false)
      else (f.put (here.step name) text, true)
    | (f, _), _ => (f, false)

/-- The folder of files written one after the other. -/
def ofFiles (files : List (String × String)) : Folder :=
  files.foldl (fun f file => (f.store file.1 file.2).1) empty

end Folder

end QueryDesk
