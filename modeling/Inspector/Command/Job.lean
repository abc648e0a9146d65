import Inspector.Command.Script
import Inspector.Inspection

/-!
# Jobs

The two things to do with a description file: generate the editor of its target,
or check what would be generated.

Generated source replaces whatever file is at its path, and the directories on
the way there are made. Nothing is touched before the source is complete.
-/

namespace Inspector.Command

open Diagnostics Files

/-- A job. -/
inductive Job where
  /-- Generates an editor. It goes to its destination, or is printed. -/
  | generate (input : String) (destination : Destination) (toOutput : Bool)
  /-- Checks a description. -/
  | check (input : String)

/-- Where the reports on generated files come from. -/
def jobOrigin : String := "editorgen::generate"

/-! ## Reading -/

/-- The target in a description file. The extension of the file tells the format. -/
def load (path : String) : Script Target :=
  .read path fun
    | .error fault => .giveUp (.unreadable path fault)
    | .ok content =>
      match String.fromUTF8? content with
      | none => .giveUp (.undecodable path)
      | some text => .orGiveUp .unusable (Target.load (.ofExtension (extension? path)) text)

/-! ## Writing -/

/-- Makes directories, the innermost first in the list. Those that exist already
are as good as made. -/
def makeDirectories : List String → Script (Except FileFault Unit)
  | [] => .done (.ok ())
  | path :: above =>
    .change (.makeDirectory path) fun
      | .ok () => .done (.ok ())
      | .error .missing => do
        match ← makeDirectories above with
        | .error fault => return .error fault
        | .ok () => .change (.makeDirectory path) (settle path)
      | .error fault => settle path (.error fault)
where
  /-- A directory that cannot be made may be there. -/
  settle (path : String) : Except FileFault Unit → Script (Except FileFault Unit)
    | .ok () => .done (.ok ())
    | .error fault =>
      .ask (.isDirectory path) fun there => .done (if there then .ok () else .error fault)

/-- The event on a file that gives way. -/
def staleEvent (path : String) : Event :=
  .of .debug jobOrigin "removing stale editor source" [("path", .shown path)]

/-- Removes the file at a path, if there is one. -/
def clear (path : String) : Script Unit :=
  .ask (.isFile path) fun
    | false => .done ()
    | true => do
      .say (staleEvent path)
      .change (.remove path) (.orGiveUp (.notRemoved path))

/-- Makes the directory of a path, if it is not the working directory. -/
def prepare (path : String) : Script Unit :=
  match ancestors path with
  | [] => .done ()
  | above :: further => do
    Script.orGiveUp (.notMade above) (← makeDirectories (above :: further))

/-- Writes source to its path. -/
def save (source : Source) : Script Unit := do
  clear source.path
  prepare source.path
  .change (.write source.path source.text.toUTF8) (.orGiveUp (.notWritten source.path))

/-! ## The two jobs -/

/-- The event at the start. -/
def startEvent (t : Target) : Event :=
  .of .info jobOrigin "generating editor" [("type_name", .shown t.qualifiedName)]

/-- The event that asks for annotations to be taken off the target. -/
def reminderEvent (t : Target) (source : Source) : Event :=
  .of .info jobOrigin
    "remove Header, Space, Range and Tooltip annotations from the target type"
    [("type_name", .text t.name),
     ("fields", .shown (String.intercalate ", " source.annotated))]

/-- Reminds of the annotations that the source draws by itself. -/
def remind (t : Target) (source : Source) : Script Unit :=
  if source.annotated = [] then .done () else .say (reminderEvent t source)

/-- Delivers finished source. -/
def deliver (toOutput : Bool) (source : Source) : Script Unit :=
  if toOutput then .print source.text (.done ())
  else do
    save source
    .printLine ("✓ Wrote " ++ source.path)

/-- Generates an editor. -/
def generate (input : String) (destination : Destination) (toOutput : Bool) : Script Unit := do
  let t ← load input
  .say (startEvent t)
  .report (Report.events .forwarding (generateEditor (some t) destination).reports) (.done ())
  match ← Script.orGiveUp .failed (generateEditor (some t) destination).answer with
  | none => return ()
  | some source =>
    remind t source
    deliver toOutput source

/-- The lines on an accepted target. -/
def summaryLines (s : Summary) : List String :=
  ["✓ Type: " ++ s.typeName ++ " (eligible)",
   "✓ Serialized fields: " ++ s.selected.repr,
   "✓ Notices: " ++ s.notices.length.repr] ++
  s.notices.map (fun n => "  - " ++ n.text) ++
  ["", "Description is valid!"]

/-- Says so when a target cannot have an editor. -/
def printEligibility (t : Target) : Script Unit :=
  if t.isEligible then .done () else .printLine ("✗ " ++ t.qualifiedName ++ " is not eligible")

/-- Checks a description. -/
def check (input : String) : Script Unit := do
  .printLine ("Checking description: " ++ input)
  let t ← load input
  printEligibility t
  .report (Report.events .collecting t.assembly.reports) (.done ())
  let summary ← Script.orGiveUp .failed t.inspect
  (summaryLines summary).forM .printLine

/-- The script of a job. -/
def Job.script : Job → Script Unit
  | generate input destination toOutput => Command.generate input destination toOutput
  | check input => Command.check input

end Inspector.Command
