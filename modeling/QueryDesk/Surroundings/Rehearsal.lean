import QueryDesk.Surroundings.Dialogue
import QueryDesk.Surroundings.Folder

/-! # Rehearsals

A dialogue played without a machine: files are kept in memory, requests are answered from a script,
and pauses only move a clock. A stage remembers what was printed, written and sent.
-/

set_option autoImplicit false

namespace QueryDesk

/-! ## Scripts -/

/-- **An entry of a script**: a response and after how many milliseconds it comes, a connection that
is refused, or one that breaks. -/
inductive Cue where
  | respond (delayMs : Nat) (r : Response)
  | refuse
  | drop

namespace Cue

/-- What comes of a request that may take so long; a response that takes just as long is late. -/
def outcome (limitMs : Nat) : Cue → Outcome
  | .respond delayMs r => if limitMs ≤ delayMs then .late else .response r
  | .refuse => .refused
  | .drop => .broken

/-- How long the request takes, at most the time it may take. -/
def time (limitMs : Nat) : Cue → Nat
  | .respond delayMs _ => min delayMs limitMs
  | _ => 0

end Cue

/-- A header by its name, in any letter case. -/
def header? (headers : List (String × String)) (name : String) : Option String :=
  (headers.find? fun h => h.1.toLower == name.toLower).map Prod.snd

/-- Whether the value of a header can be read as text: visible ASCII characters, spaces and tabs. -/
def isReadableHeader (s : String) : Bool :=
  s.toList.all fun c => (0x20 ≤ c.toNat && c.toNat < 0x7F) || c == '\t'

/-- The pause that headers ask for. -/
def retryAfter? (headers : List (String × String)) : Option String :=
  (header? headers "Retry-After").filter isReadableHeader

/-! ## Stages -/

/-- **A stage**: files, what is left of the script, the time that passed in milliseconds, and, last
first, the requests that were answered from the script and the texts that were printed. -/
structure Stage where
  folder : Folder
  script : List Cue
  elapsedMs : Nat
  sent : List Request
  printed : List String

namespace Stage

/-- A stage with files and a script, before anything happened. -/
def start (folder : Folder) (script : List Cue) : Stage := ⟨folder, script, 0, [], []⟩

/-- The stage after so many milliseconds, of which a timer counts no more than the longest pause. -/
def pass (s : Stage) (ms : Nat) : Stage := { s with elapsedMs := s.elapsedMs + min ms longestPause }

/-- A request, answered by the next entry of the script. Behind the end of the script connections are
refused. -/
def answer (s : Stage) (r : Request) : Outcome × Stage :=
  match s.script with
  | [] => (.refused, s)
  | cue :: rest =>
    (cue.outcome r.timeoutMs.toNat,
      { s.pass (cue.time r.timeoutMs.toNat) with script := rest, sent := r :: s.sent })

/-- **A dialogue played on a stage.** -/
def play {α : Type} : Dialogue α → Stage → α × Stage
  | .done a, s => (a, s)
  | .request r next, s =>
    let (outcome, s) := s.answer r
    play (next outcome) s
  | .pause ms next, s => play next (s.pass ms)
  | .read path next, s => play (next (s.folder.look path)) s
  | .save path text next, s =>
    let (folder, saved) := s.folder.store path text
    play (next saved) { s with folder }
  | .print text next, s => play next { s with printed := text :: s.printed }

/-- The requests that were answered, in order. -/
def requests (s : Stage) : List Request := s.sent.reverse

/-- All that was printed. -/
def output (s : Stage) : String := String.join s.printed.reverse

end Stage

end QueryDesk
