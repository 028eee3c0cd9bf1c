import QueryDesk.Backend.Call
import QueryDesk.CommandLine.Arguments
import QueryDesk.Query.Executable
import QueryDesk.Query.Saved
import QueryDesk.Report.Csv
import QueryDesk.Report.Listing
import QueryDesk.Settings.Layers
import QueryDesk.Text.Visible

/-! # Carrying out invocations

The dialogue of the program with its surroundings: settings are found, then the command is carried
out. The answer is the exit code; what was printed before a failure stays printed.
-/

set_option autoImplicit false

namespace QueryDesk

/-- The exit code of success. -/
def exitSuccess : Nat := 0

/-- The exit code of a failure. -/
def exitFailure : Nat := 1

/-- The exit code for wrong arguments. -/
def exitUsage : Nat := 2

/-- A step of a command: what it brought, or nothing after a failure. -/
abbrev Step (α : Type) := Dialogue (Option α)

namespace Step

variable {α β : Type}

/-- One step after another, unless the first failed. -/
def andThen (step : Step α) (next : α → Dialogue Nat) : Dialogue Nat :=
  step.bind fun found =>
    match found with
    | some a => next a
    | none => .done exitFailure

/-- What a call of the backend brought. -/
def ofCall (call : Dialogue (Except Backend.Failure α)) : Step α :=
  call.bind fun answer => .done answer.toOption

/-- The text of a file. -/
def fileText (path : String) : Step String := .read path fun file => .done file.text?

/-- A saved query in a file. -/
def savedQuery (path : String) : Step SavedQuery :=
  .read path fun file => .done (SavedQuery.load file.text?).toOption

/-- A result in a file. -/
def result (path : String) : Step QueryResult :=
  .read path fun file => .done (file.text?.bind fun text => (QueryResult.read text).toOption)

end Step

/-! ## Settings -/

/-- What paths hold, one after the other. -/
def lookAtAll : List String → Dialogue (List FileContent)
  | [] => .done []
  | path :: rest => .read path fun file => (lookAtAll rest).bind fun files => .done (file :: files)

/-- The settings that hold. -/
def findSettings (environment : Environment) (directory : Option String) :
    Option String → Step Settings
  | some path => .read path fun file => .done (Settings.loadWith environment file).toOption
  | none => (lookAtAll (Settings.usualPaths directory)).bind fun files =>
      .done (some (Settings.ofUsualFiles environment files))

/-! ## Output -/

/-- Lines, and success. -/
def printAll (lines : List String) : Dialogue Nat :=
  (Dialogue.printLines lines).bind fun _ => .done exitSuccess

/-- A result in a format. -/
def printResult (r : QueryResult) (format : OutputFormat) (pattern : Option String) : Dialogue Nat :=
  match format with
  | .json => printAll [r.toJson.toPretty]
  | .csv => printAll (r.csv pattern)
  | .table => match r.grid? pattern with
    | some lines => printAll lines
    | none => .done exitFailure

/-! ## Commands -/

/-- List the tables of the database; CSV is listed like a table. -/
def carryTables (settings : Settings) (format : OutputFormat) (withColumns : Bool) : Dialogue Nat :=
  (Step.ofCall (Backend.fetchSchema settings.backend)).andThen fun schema =>
    match format with
    | .json => printAll [schema.toJson.toPretty]
    | _ => printAll (schema.listing withColumns)

/-- Run a saved query, and pivot its result where that is asked for. -/
def carryRun (settings : Settings) (format : OutputFormat) (path : String) (limit : Option UInt32)
    (pattern : Option String) (pivot : PivotOptions) : Dialogue Nat :=
  (Step.savedQuery path).andThen fun saved =>
    match saved.query.executable? with
    | none => .done exitFailure
    | some query =>
      (Step.ofCall (Backend.executeQuery settings.backend query limit)).andThen fun result =>
        match pivot.config? settings with
        | some config => printResult (result.pivot config) format pattern
        | none => printResult result format pattern

/-- Run a text of SQL. -/
def carrySql (settings : Settings) (format : OutputFormat) (text : String)
    (pattern : Option String) : Dialogue Nat :=
  (Step.ofCall (Backend.executeSql settings.backend text)).andThen fun result =>
    printResult result format pattern

/-- Pivot a result in a file. -/
def carryPivot (settings : Settings) (format : OutputFormat) (path : String)
    (pivot : PivotOptions) : Dialogue Nat :=
  (Step.result path).andThen fun result =>
    match pivot.config? settings with
    | some config => printResult (result.pivot config) format none
    | none => .done exitFailure

/-- Suggestions, and the data of the first one where it is asked for. -/
def printSuggestions (suggestions : List Suggestion) (result : QueryResult) (format : OutputFormat)
    (withData : Bool) : Dialogue Nat :=
  let lines := match format with
    | .json => [(Json.ofList Suggestion.toJson suggestions).toPretty]
    | _ => suggestionListing suggestions
  let data := if withData then
      suggestions.head?.toList.map fun top => (top.data result).toJson.toPretty
    else []
  printAll (lines ++ data)

/-- The output columns of a saved query; none where there is no query. -/
def selectionsOf : Option String → Step (List Selection)
  | none => .done (some [])
  | some path => (Step.savedQuery path).bind fun saved =>
      .done (saved.map fun saved => saved.query.columns)

/-- Suggest charts for a result in a file. -/
def carrySuggest (settings : Settings) (format : OutputFormat) (path : String)
    (query : Option String) (withData : Bool) : Dialogue Nat :=
  (Step.result path).andThen fun result =>
    (selectionsOf query).andThen fun selections =>
      printSuggestions ((result.suggestions selections).take settings.maxSuggestions.toNat) result
        format withData

/-- Show a date by a pattern. -/
def carryFormatDate (date pattern : String) : Dialogue Nat :=
  match reformatDate? date pattern with
  | some s => printAll [s]
  | none => .done exitFailure

/-- Write a settings file with the defaults, or show it. -/
def carryConfig : Option String → Dialogue Nat
  | none => .print Settings.template (.done exitSuccess)
  | some path => .save path Settings.template fun saved =>
      if saved then printAll ["Config written to " ++ Text.shownQuoted path] else .done exitFailure

/-- A command carried out under settings. -/
def Command.carryOut (settings : Settings) (format : OutputFormat) : Command → Dialogue Nat
  | .tables withColumns => carryTables settings format withColumns
  | .run path limit pattern options => carryRun settings format path limit pattern options
  | .sql text pattern => carrySql settings format text pattern
  | .pivot path options => carryPivot settings format path options
  | .suggest path query withData => carrySuggest settings format path query withData
  | .formatDate date pattern => carryFormatDate date pattern
  | .config output => carryConfig output

/-- The settings with the address of the backend that was said on the command line. -/
def Settings.withUrl (s : Settings) (url : Option String) : Settings :=
  { s with backend := { s.backend with url := url.getD s.backend.url } }

/-- **An invocation carried out.** -/
def Invocation.carryOut (environment : Environment) (directory : Option String) (i : Invocation) :
    Dialogue Nat :=
  (findSettings environment directory i.settingsPath).andThen fun settings =>
    i.command.carryOut (settings.withUrl i.backendUrl) i.format

/-! ## The program -/

/-- The name and the version of the program. -/
def versionLine : String := "quarry 0.1.0"

/-- What the program can do, in short. -/
def helpLines : List String :=
  ["Build, run and reshape analytical queries",
   "",
   "Usage: quarry [OPTIONS] <COMMAND>",
   "",
   "Commands:",
   "  tables       List tables in the database",
   "  run          Run a saved query",
   "  sql          Run raw SQL",
   "  pivot        Pivot a result file from long to wide format",
   "  suggest      Suggest charts for a result file",
   "  format-date  Format a date with a pattern",
   "  config       Generate default config file",
   "  help         Print this message or the help of the given subcommand(s)"]

/-- **The program**: from its arguments to its exit code. -/
def program (environment : Environment) (directory : Option String) (args : List String) :
    Dialogue Nat :=
  match readArguments args with
  | .ok i => i.carryOut environment directory
  | .error .usage => .done exitUsage
  | .error .help => printAll helpLines
  | .error .version => printAll [versionLine]

end QueryDesk
