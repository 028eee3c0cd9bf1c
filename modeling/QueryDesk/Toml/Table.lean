import QueryDesk.Toml.Basic

/-! # Putting tables together

How the statements of a document, and the entries between braces, add up to tables. A path leads
through tables that are made on the way where they are missing. Keys with dots may lead only through
tables that have no header of their own and end in tables made by dots; a header may lead through
any table but one in braces. Through an array of tables every path leads into its last element.
Nothing may be defined twice.
-/

set_option autoImplicit false

namespace QueryDesk.Toml

/-- Members with one of them, which is there, changed. -/
def setMember (key : String) (v : Toml) (members : Members) : Members :=
  members.map fun m => if m.1 = key then (key, v) else m

/-- How a path is written: as a header, or as a key with dots. -/
inductive PathKind where
  | header
  | dots
deriving DecidableEq

/-- Whether a path may lead through a table. -/
def PathKind.passes : PathKind → TableOrigin → Bool
  | _, .braces => false
  | .dots, .header => false
  | _, _ => true

/-- The origin of a table that a path makes on its way. -/
def PathKind.makes : PathKind → TableOrigin
  | .header => .passage
  | .dots => .dots

/-- **A change at the end of a path**: the members of the table there are replaced, tables on the way
are made where they are missing. The change is told the origin of the table. -/
def changeAt (kind : PathKind) (change : TableOrigin → Members → Option Members) :
    List String → TableOrigin → Members → Option Members
  | [], origin, members => change origin members
  | key :: path, _, members =>
    match members.lookup key with
    | none =>
      (changeAt kind change path kind.makes []).map fun inner =>
        members ++ [(key, .table kind.makes inner)]
    | some (.table origin inner) =>
      if kind.passes origin then
        (changeAt kind change path origin inner).map fun inner =>
          setMember key (.table origin inner) members
      else none
    | some (.array true items) =>
      match items.getLast? with
      | some (.table origin inner) =>
        (changeAt kind change path origin inner).map fun inner =>
          setMember key (.array true (items.dropLast ++ [.table origin inner])) members
      | _ => none
    | some _ => none

/-- A member more, unless there is one of its key. -/
def addMember (key : String) (v : Toml) (members : Members) : Option Members :=
  if (members.lookup key).isSome then none else some (members ++ [(key, v)])

/-- **An entry more**: a value under a key, which lies at the end of a path of dots. -/
def addEntry (path : List String) (key : String) (v : Toml) (origin : TableOrigin)
    (members : Members) : Option Members :=
  changeAt .dots
    (fun found inner =>
      if !path.isEmpty && found != .dots then none else addMember key v inner)
    path origin members

/-- The header of a table: a table that so far was only passed gets its own header. -/
def openTable (key : String) (members : Members) : Option Members :=
  match members.lookup key with
  | none => some (members ++ [(key, .table .header [])])
  | some (.table .passage inner) => some (setMember key (.table .header inner) members)
  | some _ => none

/-- The header of an element of an array of tables. -/
def openElement (key : String) (members : Members) : Option Members :=
  match members.lookup key with
  | none => some (members ++ [(key, .array true [.table .header []])])
  | some (.array true items) =>
    some (setMember key (.array true (items ++ [.table .header []])) members)
  | some _ => none

/-- The path and the last key of a row of keys. -/
def splitKeys? (keys : List String) : Option (List String × String) :=
  keys.getLast?.map fun key => (keys.dropLast, key)

/-- An entry under a row of keys. -/
def addKeyed (keys : List String) (v : Toml) (origin : TableOrigin) (members : Members) :
    Option Members :=
  (splitKeys? keys).bind fun (path, key) => addEntry path key v origin members

/-- The table that entries between braces make up. -/
def ofEntries? (entries : List (List String × Toml)) : Option Toml :=
  (entries.foldlM (fun members (keys, v) => addKeyed keys v .braces members) []).map
    (.table .braces)

end QueryDesk.Toml
