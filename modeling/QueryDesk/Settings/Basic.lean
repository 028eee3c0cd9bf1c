/-! # Settings

What can be set up: how the backend is reached, a pattern for headers of pivoted columns, how many
charts are suggested, and the log. `Settings.template` is the text of a settings file that says what
the defaults are.
-/

set_option autoImplicit false

namespace QueryDesk

/-- **How the backend is reached.** -/
structure BackendSettings where
  url : String
  timeoutMs : UInt64
  maxRetries : UInt32
  defaultLimit : UInt32
deriving DecidableEq

/-- **Settings.** -/
structure Settings where
  backend : BackendSettings
  headerPattern : Option String
  maxSuggestions : UInt64
  logLevel : String
  logFormat : String
deriving DecidableEq

/-- The backend that is used when none was set up. -/
def BackendSettings.default : BackendSettings := ⟨"http://localhost:8000", 30000, 2, 1000⟩

namespace Settings

/-- The settings that hold when nothing was set up. -/
def default : Settings := ⟨.default, none, 5, "info", "pretty"⟩

/-- The lines of a settings file with the defaults. -/
def templateLines : List String :=
  ["# Quarry Configuration",
   "#",
   "# Environment variables override these settings:",
   "# - QUARRY_BACKEND_URL",
   "# - QUARRY_BACKEND_TIMEOUT_MS",
   "# - QUARRY_LOG_LEVEL",
   "# - QUARRY_LOG_FORMAT",
   "",
   "[backend]",
   "# Query execution service",
   "url = \"http://localhost:8000\"",
   "",
   "# Request timeout (ms)",
   "request_timeout_ms = 30000",
   "",
   "# Retries on connection failures and rate limiting",
   "max_retries = 2",
   "",
   "# Row limit for queries that do not set one",
   "default_limit = 1000",
   "",
   "[pivot]",
   "# Date pattern for pivoted column headers that look like dates",
   "# header_format = \"MMM yyyy\"",
   "",
   "[suggest]",
   "# Number of chart suggestions to show",
   "max_suggestions = 5",
   "",
   "[logging]",
   "# Log level: trace, debug, info, warn, error",
   "level = \"info\"",
   "",
   "# Log format: pretty (for development) or json (for production)",
   "format = \"pretty\""]

/-- **A settings file with the defaults.** -/
def template : String := String.join (templateLines.map fun line => line ++ "\n")

end Settings

end QueryDesk
