import Inspector.Command.Console

/-!
# The program

Reads a command line and performs it: scripts run on the real file system, what
they print goes to the standard output, and events and complaints go to the
standard error.
-/

namespace Inspector.Command

open Diagnostics Files

/-- The fault behind an error of the system. -/
def faultOf (problem : IO.Error) : FileFault :=
  match problem with
  | .noFileOrDirectory .. => .missing
  | .alreadyExists .. => .occupied
  | .inappropriateType _ 20 _ => .noDirectory
  | .inappropriateType _ 21 _ => .directory
  | problem => .other (toString problem)

/-- Tries an action on the file system. -/
def attemptAction {α : Type} (action : IO α) : IO (Except FileFault α) :=
  try return .ok (← action)
  catch problem => return .error (faultOf problem)

/-- Whether there is a directory at a path: then, and only then, the path goes on
with a dot. -/
def isDirectory (path : String) : IO Bool :=
  try
    discard (IO.FS.realPath (path ++ "/."))
    return true
  catch _ => return false

/-- Whether there is a file at a path. -/
def isFile (path : String) : IO Bool := do
  if ← isDirectory path then return false
  try
    discard (IO.FS.Handle.mk path .read)
    return true
  catch _ => return false

/-- Answers a question about the file system. -/
def answerQuestion : Question → IO Bool
  | .isFile path => isFile path
  | .isDirectory path => isDirectory path

/-- Makes a change to the file system. -/
def makeChange : Change → IO Unit
  | .remove path => IO.FS.removeFile path
  | .makeDirectory path => IO.FS.createDir path
  | .write path content => IO.FS.writeBinFile path content

/-- Shows the events that pass a threshold. -/
def showEvents (limit : Level) (events : List Event) : IO Unit :=
  (heardAt limit events).forM fun e => IO.eprintln e.consoleLine

/-- Performs a script. The answer comes with the events that were shown on the
way, after those that were shown before. -/
def perform {α : Type} (limit : Level) (shown : List Event) :
    Script α → IO (List Event × Except Complaint α)
  | .done a => return (shown, .ok a)
  | .giveUp complaint => return (shown, .error complaint)
  | .print text rest => do
    IO.print text
    perform limit shown rest
  | .report events rest => do
    showEvents limit events
    perform limit (shown ++ heardAt limit events) rest
  | .read path next => do
    perform limit shown (next (← attemptAction (IO.FS.readBinFile path)))
  | .ask question next => do
    perform limit shown (next (← answerQuestion question))
  | .change c next => do
    perform limit shown (next (← attemptAction (makeChange c)))

/-- The variable of the environment that holds the text of a filter for events. -/
def filterVariable : String := "RUST_LOG"

/-- Performs a job before an audience. -/
def performJob (audience : Audience) (job : Job) : IO UInt32 := do
  let (shown, answer) ← perform audience.console [] job.script
  (closingLines (countWarnings audience.channel shown) answer).forM fun line => IO.eprintln line
  return UInt32.ofNat (exitStatus answer)

/-- Performs an invocation. -/
def performInvocation (filter : Option String) : Invocation → IO UInt32
  | .rejected => do
    IO.eprintln usageText
    return UInt32.ofNat usageStatus
  | .help => do
    IO.println usageText
    return 0
  | .version => do
    IO.print versionText
    return 0
  | .perform verbose job => performJob (.of filter verbose) job

end Inspector.Command

open Inspector.Command

/-- The program. -/
def main (arguments : List String) : IO UInt32 := do
  performInvocation (← IO.getEnv filterVariable) (.read arguments)
