import QueryDesk.Settings.Basic
import QueryDesk.Toml.Document

/-! # Reading settings

Settings in a TOML text. Every part may be left out, unknown members are skipped, and a part that is
there must have the right type. A part is a table, or an array of its members in their order; a date
or time stands for a part with all of its members left out.
-/

set_option autoImplicit false

namespace QueryDesk

namespace Toml

/-- **The members of a part** of the settings, and whether they were given by position. -/
structure Part where
  byPosition : Bool
  given : Members

/-- The members of a part with these names; those behind the last name are skipped. -/
def part? (names : List String) : Toml → Option Part
  | .table _ members => some ⟨false, members⟩
  | .array _ items => some ⟨true, names.zip items⟩
  | .time => some ⟨false, []⟩
  | _ => none

/-- A member, or what holds when it is left out. -/
def Part.get? {α : Type} (p : Part) (name : String) (read : Toml → Option α) (default : α) :
    Option α :=
  match p.given.lookup name with
  | none => some default
  | some v => read v

/-- A text. -/
def asText? : Toml → Option String
  | .text s => some s
  | _ => none

/-- A natural number of 64 bits. -/
def asUInt64? : Toml → Option UInt64
  | .integer n => if 0 ≤ n then some (UInt64.ofNat n.toNat) else none
  | _ => none

/-- A natural number of 32 bits. -/
def asUInt32? : Toml → Option UInt32
  | .integer n => if 0 ≤ n ∧ n.toNat < UInt32.size then some (UInt32.ofNat n.toNat) else none
  | _ => none

end Toml

namespace Settings

open Toml (asText? asUInt64? asUInt32?)

/-- How the backend is reached. -/
def readBackend? (v : Toml) : Option BackendSettings := do
  let p ← v.part? ["url", "request_timeout_ms", "max_retries", "default_limit"]
  let url ← p.get? "url" asText? BackendSettings.default.url
  let timeoutMs ← p.get? "request_timeout_ms" asUInt64? BackendSettings.default.timeoutMs
  let maxRetries ← p.get? "max_retries" asUInt32? BackendSettings.default.maxRetries
  let defaultLimit ← p.get? "default_limit" asUInt32? BackendSettings.default.defaultLimit
  some ⟨url, timeoutMs, maxRetries, defaultLimit⟩

/-- The pattern for headers of pivoted columns; given by position it may not be left out. -/
def readPivot? (v : Toml) : Option (Option String) := do
  let p ← v.part? ["header_format"]
  if p.byPosition && p.given.isEmpty then none
  else p.get? "header_format" (fun v => (asText? v).map some) none

/-- How many charts are suggested. -/
def readSuggest? (v : Toml) : Option UInt64 := do
  let p ← v.part? ["max_suggestions"]
  p.get? "max_suggestions" asUInt64? Settings.default.maxSuggestions

/-- The level and the format of the log. -/
def readLogging? (v : Toml) : Option (String × String) := do
  let p ← v.part? ["level", "format"]
  let level ← p.get? "level" asText? Settings.default.logLevel
  let format ← p.get? "format" asText? Settings.default.logFormat
  some (level, format)

/-- The settings in a TOML value. -/
def ofToml? (v : Toml) : Option Settings := do
  let p ← v.part? ["backend", "pivot", "suggest", "logging"]
  let backend ← p.get? "backend" readBackend? Settings.default.backend
  let headerPattern ← p.get? "pivot" readPivot? Settings.default.headerPattern
  let maxSuggestions ← p.get? "suggest" readSuggest? Settings.default.maxSuggestions
  let (logLevel, logFormat) ←
    p.get? "logging" readLogging? (Settings.default.logLevel, Settings.default.logFormat)
  some ⟨backend, headerPattern, maxSuggestions, logLevel, logFormat⟩

/-- **The settings in the text of a file.** -/
def parse? (text : String) : Option Settings := (Toml.parse? text).bind ofToml?

end Settings

end QueryDesk
