import QueryDesk.Settings.Reading
import QueryDesk.Surroundings.File

/-! # Layers of settings

Settings come from a file and are then overridden, one by one, by variables of the environment. A
file that was asked for must be readable; of the files at the usual places the first one that can be
used counts, and if there is none the defaults hold.
-/

set_option autoImplicit false

namespace QueryDesk

/-- Why settings were not loaded. -/
inductive SettingsError where
  | unreadable
  | malformed
deriving DecidableEq

namespace Settings

/-- The variable for the address of the backend. -/
def urlVariable : String := "QUARRY_BACKEND_URL"

/-- The variable for the time a request may take, in milliseconds. -/
def timeoutVariable : String := "QUARRY_BACKEND_TIMEOUT_MS"

/-- The variable for the level of the log. -/
def logLevelVariable : String := "QUARRY_LOG_LEVEL"

/-- The variable for the format of the log. -/
def logFormatVariable : String := "QUARRY_LOG_FORMAT"

/-- The variables that override settings. -/
def variableNames : List String :=
  [urlVariable, timeoutVariable, logLevelVariable, logFormatVariable]

/-- A number of 64 bits in a variable; any other text counts as if it were not set. -/
def readTimeout? (s : String) : Option UInt64 :=
  (Text.readUnsigned? UInt64.size s.toList).map UInt64.ofNat

/-- **The settings with what the environment overrides.** -/
def override (environment : Environment) (s : Settings) : Settings :=
  { s with
    backend := { s.backend with
      url := (environment urlVariable).getD s.backend.url
      timeoutMs := ((environment timeoutVariable).bind readTimeout?).getD s.backend.timeoutMs }
    logLevel := (environment logLevelVariable).getD s.logLevel
    logFormat := (environment logFormatVariable).getD s.logFormat }

/-- The settings in a file. -/
def load : FileContent → Except SettingsError Settings
  | .text s => match parse? s with
    | some settings => .ok settings
    | none => .error .malformed
  | _ => .error .unreadable

/-- The settings in a file, overridden by the environment. -/
def loadWith (environment : Environment) (file : FileContent) : Except SettingsError Settings :=
  (load file).map (override environment)

/-- The settings of the environment alone. -/
def ofEnvironment (environment : Environment) : Settings := override environment default

/-- The settings of the first of some files that can be used, or of the environment alone. -/
def ofUsualFiles (environment : Environment) (files : List FileContent) : Settings :=
  override environment ((files.findSome? fun file => (load file).toOption).getD default)

/-- Where the user's own settings are, below the directory for settings. -/
def userFile (directory : String) : String := directory ++ "/quarry/config.toml"

/-- **The usual places** for settings: the user's, the machine's, the current directory. -/
def usualPaths (directory : Option String) : List String :=
  (directory.map userFile).toList ++ ["/etc/quarry/config.toml", "./quarry.toml"]

/-- **The settings that hold**: from the file asked for, or else from the usual places. -/
def resolve (environment : Environment) (files : String → FileContent) (directory : Option String) :
    Option String → Except SettingsError Settings
  | some path => loadWith environment (files path)
  | none => .ok (ofUsualFiles environment ((usualPaths directory).map files))

end Settings

end QueryDesk
