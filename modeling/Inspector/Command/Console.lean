import Inspector.Command.Arguments
import Inspector.Diagnostics.Channel
import Inspector.Text.Numeric
import Inspector.Text.Segment

/-!
# Console

What a person sees of a job. Events below a threshold are not shown. Those that
are shown go to the channel as well, which has a level of its own and a listener
that counts warnings; the count comes after them, and the complaint of a job that
gave up comes last. What is not shown has no other consequence.
-/

namespace Inspector.Command

open Diagnostics Files

/-- The level of the channel, which the text of a filter does not change. -/
def channelLevel (verbose : Bool) : Level :=
  if verbose then .debug else .info

/-- Whether the text of a filter, one that chooses no level, is the name of a part of a
program. -/
def namesPart (text : String) : Bool :=
  text.toList.all fun c => Text.isAlphanumeric c || c ∈ ['_', ':', '-']

/-- The threshold for events. The text of a filter decides it, if the text chooses a level,
and an empty text lets errors pass. A text that names a part of a program lets nothing pass
from anywhere else. Any other text is not understood and counts as none. Texts that choose
levels for the parts of this program are left out. -/
def threshold (filter : Option String) (verbose : Bool) : Level :=
  match filter with
  | some text =>
    if text = "" then .error
    else
      match Level.ofDirective? text with
      | some level => level
      | none => if namesPart text then .off else channelLevel verbose
  | none => channelLevel verbose

/-- Who follows a job: a console that shows the events from one level on, and a
channel that passes on those of them from another level on. -/
structure Audience where
  console : Level
  channel : Level

/-- The audience of an invocation. -/
def Audience.of (filter : Option String) (verbose : Bool) : Audience :=
  ⟨threshold filter verbose, channelLevel verbose⟩

/-- What a listener counts at a channel of a level while some events are shown:
the warnings, and what is graver. -/
def countWarnings (level : Level) (shown : List Event) : Nat :=
  ((Channel.listening level).emitAll shown).2.countP fun call =>
    Level.warn.severity ≤ call.message.level.severity

/-- The line of a count of warnings. -/
def countLine (count : Nat) : String :=
  count.repr ++ " warning(s) emitted"

/-- The line of a complaint. -/
def complaintLine (c : Complaint) : String :=
  "error: " ++ c.message

/-- The lines that end a job with a count of warnings. -/
def closingLines (count : Nat) (answer : Except Complaint Unit) : List String :=
  (if count = 0 then [] else [countLine count]) ++
    match answer with
    | .ok () => []
    | .error complaint => [complaintLine complaint]

/-- The exit status of a job. -/
def exitStatus : Except Complaint Unit → Nat
  | .ok () => 0
  | .error complaint => complaint.status

/-- What an invocation leaves behind. -/
structure Ending where
  status : Nat
  /-- What was printed. -/
  output : String
  /-- What a person was told besides, one record after the other. A record may quote texts
  that hold ends of lines. -/
  records : List String
  /-- The files as the job leaves them. -/
  files : FileTree

namespace Ending

/-- The text of the standard error: each record is ended by a line feed. -/
def told (ending : Ending) : String :=
  String.join (ending.records.map (· ++ "\n"))

/-- The lines of the standard error. -/
def lines (ending : Ending) : List String :=
  ((Text.segments '\n' ending.told.toList).dropLast).map String.ofList

end Ending

/-- The ending of a run before an audience. -/
def Run.ending (audience : Audience) (r : Run Unit) : Ending where
  status := exitStatus r.answer
  output := r.printed
  records :=
    let shown := heardAt audience.console r.events
    shown.map (·.consoleLine) ++ closingLines (countWarnings audience.channel shown) r.answer
  files := r.files

/-- The ending of a job on a file tree. -/
def Job.ending (audience : Audience) (job : Job) (files : FileTree) : Ending :=
  (job.script.run files).ending audience

/-- The name and the version of the program. -/
def versionText : String := "editorgen 0.3.0\n"

/-- How the program is called. -/
def usageText : String :=
  "Usage: editorgen [-v] generate -i <INPUT> [-o <OUTPUT> | --file <FILE>] [--stdout]\n" ++
  "       editorgen [-v] check -i <INPUT>"

/-- The exit status when the arguments are not understood. -/
def usageStatus : Nat := 2

/-- The ending of an invocation on a file tree, with the text of a filter for
events. -/
def Invocation.ending (filter : Option String) (files : FileTree) : Invocation → Ending
  | rejected => ⟨usageStatus, "", [usageText], files⟩
  | help => ⟨0, usageText ++ "\n", [], files⟩
  | version => ⟨0, versionText, [], files⟩
  | perform verbose job => job.ending (.of filter verbose) files

end Inspector.Command
