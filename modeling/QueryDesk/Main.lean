import QueryDesk.CommandLine.Carrying
import QueryDesk.Surroundings.Path

/-! # The program on a machine

The dialogue of the program carried out with files, the environment and the standard output. No
transport is linked in, so every connection counts as refused.
-/

set_option autoImplicit false

namespace QueryDesk

/-- What a path holds. -/
def lookAt (path : String) : IO FileContent := do
  try
    return .text (← IO.FS.readFile path)
  catch e =>
    match e with
    | .noFileOrDirectory _ _ _ => return .missing
    | _ => return .unreadable

/-- A file written, with the directories it lies in; whether that worked. -/
def writeAt (path text : String) : IO Bool := do
  try
    unless (Path.parent path).isEmpty do IO.FS.createDirAll (Path.parent path)
    IO.FS.writeFile path text
    return true
  catch _ => return false

/-- A pause of so many milliseconds, at most the longest one: whole days, then the rest. -/
def pauseFor (ms : Nat) : IO Unit := do
  let day := 24 * 60 * 60 * 1000
  let ms := min ms longestPause
  (List.replicate (ms / day) ()).forM fun _ => IO.sleep (UInt32.ofNat day)
  IO.sleep (UInt32.ofNat (ms % day))

/-- **A dialogue carried out.** -/
def Dialogue.perform {α : Type} : Dialogue α → IO α
  | .done a => return a
  | .request _ next => perform (next .refused)
  | .pause ms next => do
    pauseFor ms
    perform next
  | .read path next => do perform (next (← lookAt path))
  | .save path text next => do perform (next (← writeAt path text))
  | .print text next => do
    IO.print text
    perform next

/-- The variables of the environment that the program looks at. -/
def readEnvironment : IO Environment := do
  let found ← Settings.variableNames.mapM fun name => do return (name, ← IO.getEnv name)
  return fun name => (found.lookup name).join

/-- The directory for the settings of the user. -/
def settingsDirectory? : IO (Option String) := do
  match ← IO.getEnv "XDG_CONFIG_HOME" with
  | some directory =>
    if directory.startsWith "/" then return some directory
    else return (← IO.getEnv "HOME").map (· ++ "/.config")
  | none => return (← IO.getEnv "HOME").map (· ++ "/.config")

end QueryDesk

/-- The exit code of the program for its arguments. -/
def main (args : List String) : IO UInt32 := do
  let code ← (QueryDesk.program (← QueryDesk.readEnvironment) (← QueryDesk.settingsDirectory?)
    args).perform
  return UInt32.ofNat code
