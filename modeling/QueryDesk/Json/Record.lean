import QueryDesk.Json.Basic

/-! # Records in JSON

How the parts of a record are found in a JSON value. A record is an object, whose unknown members
are skipped and whose known members may not be repeated; or it is an array of its members in the
order of their declaration, where members may be missing at the end.
-/

set_option autoImplicit false

namespace QueryDesk.Json

/-- **The members found of a record**, and whether they were given by position. -/
structure Fields where
  byPosition : Bool
  given : List (String × Json)

/-- The members of a record with these names. -/
def fields? (names : List String) : Json → Option Fields
  | .object members =>
    let known := members.filter fun m => names.contains m.1
    if (known.map Prod.fst).Nodup then some ⟨false, known⟩ else none
  | .array items =>
    if items.length ≤ names.length then some ⟨true, names.zip items⟩ else none
  | _ => none

namespace Fields

variable {α : Type}

/-- What was given for a name. -/
def find? (f : Fields) (name : String) : Option Json := f.given.lookup name

/-- A member that must be there. -/
def required (f : Fields) (name : String) (read : Json → Option α) : Option α :=
  (f.find? name).bind read

/-- A member with a value for when it is left out. -/
def withDefault (f : Fields) (name : String) (read : Json → Option α) (default : α) : Option α :=
  match f.find? name with
  | none => some default
  | some v => read v

/-- The optional value of a member: null is no value. -/
def readOptional (read : Json → Option α) : Json → Option (Option α)
  | .null => some none
  | v => (read v).map some

/-- An optional member, which may be left out. -/
def optional (f : Fields) (name : String) (read : Json → Option α) : Option (Option α) :=
  f.withDefault name (readOptional read) none

/-- An optional member that may be left out by name but not by position. -/
def optionalByName (f : Fields) (name : String) (read : Json → Option α) : Option (Option α) :=
  match f.find? name with
  | none => if f.byPosition then none else some none
  | some v => readOptional read v

end Fields

/-! ## Values of one kind -/

/-- A text. -/
def asText? : Json → Option String
  | .text s => some s
  | _ => none

/-- A truth value. -/
def asBool? : Json → Option Bool
  | .bool b => some b
  | _ => none

/-- A whole number of 64 bits. -/
def asUInt64? : Json → Option UInt64
  | .number (.natural n) => some n
  | _ => none

/-- A whole number of 32 bits. -/
def asUInt32? : Json → Option UInt32
  | .number (.natural n) => if n.toNat < UInt32.size then some n.toUInt32 else none
  | _ => none

/-- Any number. -/
def asDouble? : Json → Option Double
  | .number n => some n.toDouble
  | _ => none

/-- An array of values of one kind. -/
def asList? {α : Type} (read : Json → Option α) : Json → Option (List α)
  | .array items => items.mapM read
  | _ => none

/-- One of a set of words: the word itself, or an object with the word as its only key and null. -/
def asWord? {α : Type} (word? : String → Option α) : Json → Option α
  | .text s => word? s
  | .object [(key, .null)] => word? key
  | _ => none

end QueryDesk.Json
