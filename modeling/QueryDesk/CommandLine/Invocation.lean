import QueryDesk.Result.Pivot
import QueryDesk.Settings.Basic

/-! # Invocations

What the program can be asked to do from the command line.
-/

set_option autoImplicit false

namespace QueryDesk

/-- **The format of the output.** -/
inductive OutputFormat where
  | table
  | json
  | csv
deriving DecidableEq

namespace OutputFormat

/-- The word for the format. -/
def word : OutputFormat → String
  | .table => "table"
  | .json => "json"
  | .csv => "csv"

/-- The format that a word stands for. -/
def ofWord? (s : String) : Option OutputFormat := [table, json, csv].find? fun f => f.word == s

end OutputFormat

/-- **What to pivot on**, as far as it was said. -/
structure PivotOptions where
  pivot : Option String
  value : Option String
  dimensions : List String
  headerPattern : Option String
deriving DecidableEq

/-- What to pivot on, once both columns were said; headers follow the settings where no pattern was
said. -/
def PivotOptions.config? (o : PivotOptions) (settings : Settings) : Option PivotConfig :=
  match o.pivot, o.value with
  | some pivot, some value =>
    some ⟨pivot, value, o.dimensions, o.headerPattern.or settings.headerPattern⟩
  | _, _ => none

/-- **What the program is asked to do.** -/
inductive Command where
  /-- List the tables of the database. -/
  | tables (withColumns : Bool)
  /-- Run a saved query. -/
  | run (path : String) (limit : Option UInt32) (pattern : Option String) (pivot : PivotOptions)
  /-- Run a text of SQL. -/
  | sql (text : String) (pattern : Option String)
  /-- Pivot a result in a file. -/
  | pivot (path : String) (pivot : PivotOptions)
  /-- Suggest charts for a result in a file. -/
  | suggest (path : String) (query : Option String) (withData : Bool)
  /-- Show a date by a pattern. -/
  | formatDate (date pattern : String)
  /-- Write a settings file with the defaults. -/
  | config (output : Option String)
deriving DecidableEq

/-- **A call of the program**: what to do, and what holds for every command. -/
structure Invocation where
  command : Command
  settingsPath : Option String
  backendUrl : Option String
  format : OutputFormat
deriving DecidableEq

end QueryDesk
