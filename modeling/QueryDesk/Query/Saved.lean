import QueryDesk.Query.Wire
import QueryDesk.Json.Reading
import QueryDesk.Json.Written

/-! # Saved queries

A saved query is a JSON object with a version, a name and the query. A text is read in three
attempts: as such an object, as a bare query (which counts as version one), and as such an object
again. The first two attempts hold the whole document, so it may nest only so deep and every part of
it must be a value; the last one skips unknown members whatever they are.
-/

set_option autoImplicit false

namespace QueryDesk

/-- **A query with its version and name.** -/
structure SavedQuery where
  version : UInt32
  name : Option String
  query : Query
deriving DecidableEq

/-- Why a saved query was not read. -/
inductive SavedQueryError where
  | malformed
  | unsupportedVersion (found supported : UInt32)
  | unreadable
deriving DecidableEq

/-- The message of an error that has one of its own. -/
def SavedQueryError.message? : SavedQueryError → Option String
  | .unsupportedVersion found supported =>
    some ("Unsupported saved query version " ++ toString found.toNat ++ " (supported up to " ++
      toString supported.toNat ++ ")")
  | _ => none

namespace SavedQuery

/-- The version that is written. -/
def currentVersion : UInt32 := 1

/-- A query at the current version, without a name. -/
def ofQuery (q : Query) : SavedQuery := ⟨currentVersion, none, q⟩

/-- The saved query under a name. -/
def named (s : SavedQuery) (name : String) : SavedQuery := { s with name := some name }

/-- The saved query in JSON. -/
def toJson (s : SavedQuery) : Json :=
  .object ([("version", .natural s.version.toUInt64)] ++ optionalMember "name" .text s.name ++
    [("query", s.query.toJson)])

/-- A saved query read from a JSON value with version, name and query. -/
def ofEnvelope? (v : Json) : Option SavedQuery := do
  let f ← v.fields? ["version", "name", "query"]
  let version ← f.required "version" Json.asUInt32?
  let name ← f.optional "name" Json.asText?
  let query ← f.required "query" Query.ofJson?
  some ⟨version, name, query⟩

/-- A saved query read from a JSON value: with version, name and query, or as a bare query where the
whole document can be held. -/
def ofJson? (v : Json) : Option SavedQuery :=
  (ofEnvelope? v).or
    (if v.heldWithin Json.nestingLimit then (Query.ofJson? v).map ofQuery else none)

/-- The saved query as the text of a file. -/
def write (s : SavedQuery) : String := s.toJson.toPretty

/-- **A saved query read from the text of a file**; a version that is not known yet is refused. -/
def read (text : String) : Except SavedQueryError SavedQuery :=
  match (Json.parse? text).bind ofJson? with
  | none => .error .malformed
  | some s =>
    if currentVersion < s.version then .error (.unsupportedVersion s.version currentVersion)
    else .ok s

/-- A saved query read from a file; `none` stands for a file that cannot be read as text. -/
def load : Option String → Except SavedQueryError SavedQuery
  | none => .error .unreadable
  | some text => read text

/-- Whether two saved queries are the same, numbers in filters compared as numbers. -/
def agrees (s t : SavedQuery) : Bool :=
  s.version == t.version && s.name == t.name && s.query.agrees t.query

end SavedQuery

end QueryDesk
