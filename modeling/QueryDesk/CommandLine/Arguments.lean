import QueryDesk.CommandLine.Invocation
import QueryDesk.Text.DecimalDigit

/-! # Arguments

How the arguments of a call are read. There are two levels: options that hold for every command and
the name of a command, then the options and operands of that command, among which the former ones
may be given again and then count. The value of an option follows it as an argument of its own that
does not begin with a dash, or is attached to it. A value is looked at when the next option or
operand comes, or at the end; behind the name of a command, only when the command was read.
-/

set_option autoImplicit false

namespace QueryDesk

/-! ## Options -/

/-- An option with a value. -/
inductive ValueOption where
  | config
  | backendUrl
  | format
  | limit
  | dateFormat
  | pivot
  | value
  | dims
  | headerFormat
  | query
  | output
deriving DecidableEq

/-- An option without a value. -/
inductive FlagOption where
  | columns
  | data
  | help
  | version
deriving DecidableEq

/-- An option of either kind. -/
inductive OptionKind where
  | valued (o : ValueOption)
  | flag (o : FlagOption)
deriving DecidableEq

/-- **How an option is spelled.** -/
structure OptionSpelling where
  long : String
  short : Option Char
  kind : OptionKind

/-- The options of both levels. -/
def sharedOptions : List OptionSpelling :=
  [⟨"config", some 'c', .valued .config⟩, ⟨"backend-url", none, .valued .backendUrl⟩,
   ⟨"format", some 'f', .valued .format⟩, ⟨"help", some 'h', .flag .help⟩]

/-- The options that say what to pivot on. -/
def pivotOptions : List OptionSpelling :=
  [⟨"pivot", none, .valued .pivot⟩, ⟨"value", none, .valued .value⟩,
   ⟨"dims", none, .valued .dims⟩, ⟨"header-format", none, .valued .headerFormat⟩]

/-- The option for the pattern of dates. -/
def dateFormatOption : OptionSpelling := ⟨"date-format", none, .valued .dateFormat⟩

/-! ## Commands -/

/-- **The name of a command.** -/
inductive CommandName where
  | tables
  | run
  | sql
  | pivot
  | suggest
  | formatDate
  | config
  | help
deriving DecidableEq

namespace CommandName

/-- Every name of a command. -/
def all : List CommandName :=
  [.tables, .run, .sql, .pivot, .suggest, .formatDate, .config, .help]

/-- The word for the command. -/
def word : CommandName → String
  | .tables => "tables"
  | .run => "run"
  | .sql => "sql"
  | .pivot => "pivot"
  | .suggest => "suggest"
  | .formatDate => "format-date"
  | .config => "config"
  | .help => "help"

/-- The command that a word names. -/
def ofWord? (s : String) : Option CommandName := all.find? fun c => c.word == s

/-- The options of the command alone. -/
def ownOptions : CommandName → List OptionSpelling
  | .tables => [⟨"columns", none, .flag .columns⟩]
  | .run => ⟨"limit", some 'l', .valued .limit⟩ :: dateFormatOption :: pivotOptions
  | .sql => [dateFormatOption]
  | .pivot => pivotOptions
  | .suggest => [⟨"query", some 'q', .valued .query⟩, ⟨"data", none, .flag .data⟩]
  | .config => [⟨"output", some 'o', .valued .output⟩]
  | .formatDate | .help => []

/-- How many operands the command has. -/
def operands : CommandName → Nat
  | .run | .sql | .pivot | .suggest => 1
  | .formatDate => 2
  | .tables | .config | .help => 0

/-- Whether the operands of the command are paths, which may not be empty. -/
def takesPath : CommandName → Bool
  | .run | .pivot | .suggest => true
  | _ => false

end CommandName

/-- **A level of arguments.** -/
structure ArgumentLevel where
  options : List OptionSpelling
  takesCommand : Bool
  operands : Nat
  takesPath : Bool

/-- The level of the options for every command. -/
def topLevel : ArgumentLevel :=
  ⟨⟨"version", some 'V', .flag .version⟩ :: sharedOptions, true, 0, false⟩

/-- The level of a command. -/
def CommandName.level (c : CommandName) : ArgumentLevel :=
  ⟨c.ownOptions ++ sharedOptions, false, c.operands, c.takesPath⟩

namespace ArgumentLevel

/-- The option of a long name. -/
def long? (level : ArgumentLevel) (name : List Char) : Option OptionKind :=
  (level.options.find? fun o => o.long.toList == name).map OptionSpelling.kind

/-- The option of a letter. -/
def short? (level : ArgumentLevel) (c : Char) : Option OptionKind :=
  (level.options.find? fun o => o.short == some c).map OptionSpelling.kind

/-- The command that an argument names. -/
def command? (level : ArgumentLevel) (arg : String) : Option CommandName :=
  if level.takesCommand then CommandName.ofWord? arg else none

end ArgumentLevel

/-! ## What was given -/

/-- **The options given** at one level. -/
structure GivenOptions where
  config : Option String
  backendUrl : Option String
  format : Option OutputFormat
  limit : Option UInt32
  dateFormat : Option String
  pivot : PivotOptions
  query : Option String
  output : Option String
  columns : Bool
  data : Bool

/-- No options. -/
def GivenOptions.empty : GivenOptions :=
  ⟨none, none, none, none, none, ⟨none, none, [], none⟩, none, none, false, false⟩

/-- Why the arguments do not lead to an invocation: they are wrong, or the program is asked about
itself. -/
inductive Stop where
  | usage
  | help
  | version
deriving DecidableEq

/-- An option that may be given once only: its value now, if it is a good one. -/
def once {α : Type} (before now : Option α) : Except Stop (Option α) :=
  match before, now with
  | none, some a => .ok (some a)
  | _, _ => .error .usage

/-- A path, which may not be empty. -/
def path? (s : String) : Option String := if s.isEmpty then none else some s

/-- A limit of rows: an integer of 32 bits, perhaps with a sign. -/
def limit? (s : String) : Option UInt32 :=
  (Text.readSigned? s.toList).bind fun n =>
    if 0 ≤ n ∧ n.toNat < UInt32.size then some (UInt32.ofNat n.toNat) else none

namespace GivenOptions

/-- **An option with its value.** Dimension columns are given with commas between them, and again
and again; every other option once. -/
def add (g : GivenOptions) (o : ValueOption) (value : String) : Except Stop GivenOptions :=
  match o with
  | .config => (once g.config (path? value)).map fun config => { g with config }
  | .backendUrl => (once g.backendUrl (some value)).map fun backendUrl => { g with backendUrl }
  | .format => (once g.format (OutputFormat.ofWord? value)).map fun format => { g with format }
  | .limit => (once g.limit (limit? value)).map fun limit => { g with limit }
  | .dateFormat => (once g.dateFormat (some value)).map fun dateFormat => { g with dateFormat }
  | .pivot =>
    (once g.pivot.pivot (some value)).map fun pivot => { g with pivot := { g.pivot with pivot } }
  | .value =>
    (once g.pivot.value (some value)).map fun value => { g with pivot := { g.pivot with value } }
  | .dims =>
    .ok { g with
      pivot := { g.pivot with dimensions := g.pivot.dimensions ++ value.splitOn "," } }
  | .headerFormat =>
    (once g.pivot.headerPattern (some value)).map fun headerPattern =>
      { g with pivot := { g.pivot with headerPattern } }
  | .query => (once g.query (path? value)).map fun query => { g with query }
  | .output => (once g.output (path? value)).map fun output => { g with output }

/-- An option without a value; those that ask about the program stop the reading. -/
def addFlag (g : GivenOptions) : FlagOption → Except Stop GivenOptions
  | .columns => if g.columns then .error .usage else .ok { g with columns := true }
  | .data => if g.data then .error .usage else .ok { g with data := true }
  | .help => .error .help
  | .version => .error .version

end GivenOptions

/-! ## Reading a level -/

/-- **What was read of a level**: options, an option whose value was not looked at yet or is still
to come, and operands, last first. -/
structure ReadArguments where
  given : GivenOptions
  pending : Option (ValueOption × Option String)
  operands : List String

namespace ReadArguments

/-- Nothing read yet. -/
def start : ReadArguments := ⟨.empty, none, []⟩

/-- The pending option looked at; one without its value is an error. -/
def settle (r : ReadArguments) : Except Stop ReadArguments :=
  match r.pending with
  | none => .ok r
  | some (_, none) => .error .usage
  | some (o, some value) => (r.given.add o value).map fun given => { r with given, pending := none }

/-- An option whose value is still to come. -/
def await (r : ReadArguments) (o : ValueOption) : Except Stop ReadArguments :=
  r.settle.map fun r => { r with pending := some (o, none) }

/-- An option with its value attached. -/
def attach (r : ReadArguments) (o : ValueOption) (value : List Char) : Except Stop ReadArguments := do
  let r ← r.settle
  let given ← r.given.add o (String.ofList value)
  .ok { r with given }

/-- An option without a value. -/
def flag (r : ReadArguments) (o : FlagOption) : Except Stop ReadArguments := do
  let r ← r.settle
  let given ← r.given.addFlag o
  .ok { r with given }

/-- An operand, if the level has one more. -/
def operand (level : ArgumentLevel) (r : ReadArguments) (arg : String) :
    Except Stop ReadArguments := do
  let r ← r.settle
  if r.operands.length < level.operands && !(level.takesPath && arg.isEmpty) then
    .ok { r with operands := arg :: r.operands }
  else .error .usage

/-- An option by its long name, perhaps with its value behind an equals sign. -/
def long (level : ArgumentLevel) (r : ReadArguments) (body : List Char) :
    Except Stop ReadArguments :=
  let name := body.takeWhile (· != '=')
  let value := body.drop name.length
  match level.long? name, value with
  | some (.valued o), [] => r.await o
  | some (.valued o), _ :: value => r.attach o value
  | some (.flag o), [] => r.flag o
  | _, _ => .error .usage

/-- Options by their letters; what is behind the letter of an option with a value is its value. -/
def short (level : ArgumentLevel) (r : ReadArguments) : List Char → Except Stop ReadArguments
  | [] => .ok r
  | c :: rest =>
    match level.short? c with
    | none => .error .usage
    | some (.flag o) => do
      let r ← r.flag o
      short level r rest
    | some (.valued o) =>
      match rest with
      | [] => r.await o
      | '=' :: value => r.attach o value
      | value => r.attach o value

/-- An argument that is not the value of an option. -/
def argument (level : ArgumentLevel) (r : ReadArguments) (arg : String) :
    Except Stop ReadArguments :=
  match arg.toList with
  | '-' :: '-' :: body => r.long level body
  | '-' :: c :: body => r.short level (c :: body)
  | _ => r.operand level arg

/-- Whether an argument begins like an option. -/
def isOptionLike (arg : String) : Bool :=
  match arg.toList with
  | '-' :: _ :: _ => true
  | _ => false

/-- **The arguments of a level**, up to the name of a command if the level takes one. Behind two
dashes there are operands only. -/
def read (level : ArgumentLevel) (r : ReadArguments) :
    List String → Except Stop (ReadArguments × Option (CommandName × List String))
  | [] => .ok (r, none)
  | arg :: rest =>
    match r.pending with
    | some (o, none) =>
      if isOptionLike arg then .error .usage
      else read level { r with pending := some (o, some arg) } rest
    | _ =>
      match level.command? arg with
      | some c => .ok (r, some (c, rest))
      | none =>
        if arg = "--" then (rest.foldlM (operand level) r).map fun r => (r, none)
        else do
          let r ← r.argument level arg
          read level r rest

end ReadArguments

/-! ## Invocations -/

/-- The command that was read; the value column says nothing without the pivot column. -/
def commandOf (name : CommandName) (r : ReadArguments) : Except Stop Command :=
  let g := r.given
  if g.pivot.value.isSome && g.pivot.pivot.isNone then .error .usage
  else match name, r.operands with
    | .tables, [] => .ok (.tables g.columns)
    | .run, [path] => .ok (.run path g.limit g.dateFormat g.pivot)
    | .sql, [text] => .ok (.sql text g.dateFormat)
    | .pivot, [path] => .ok (.pivot path g.pivot)
    | .suggest, [path] => .ok (.suggest path g.query g.data)
    | .formatDate, [pattern, date] => .ok (.formatDate date pattern)
    | .config, [] => .ok (.config g.output)
    | _, _ => .error .usage

/-- Help about one command, or about all. -/
def helpAbout : List String → Stop
  | [] => .help
  | [arg] => if (CommandName.ofWord? arg).isSome then .help else .usage
  | _ => .usage

/-- The command and its options, with the options for every command that were given before it. -/
def readCommand (top : ReadArguments) (name : CommandName) (args : List String) :
    Except Stop Invocation := do
  let (own, _) ← ReadArguments.start.read name.level args
  let own ← own.settle
  let command ← commandOf name own
  let top ← top.settle
  .ok ⟨command, own.given.config.or top.given.config, own.given.backendUrl.or top.given.backendUrl,
    (own.given.format.or top.given.format).getD .table⟩

/-- **The invocation that arguments stand for.** -/
def readArguments (args : List String) : Except Stop Invocation := do
  let (top, next) ← ReadArguments.start.read topLevel args
  match next with
  | none => .error .usage
  | some (.help, rest) => .error (helpAbout rest)
  | some (name, rest) => readCommand top name rest

end QueryDesk
