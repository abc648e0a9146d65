import Inspector.Diagnostics.Level
import Inspector.Number.Notation
import Inspector.Text.Quoted

/-!
# Events

A diagnostic event has a level, an origin and named values. The value named
`message` is the event in words; an event without one consists of the others.

An event is put into one line of text in two ways. A `Transcript` is what a
listener gets: the message and after it `name=value` for every other value. A
console line is what a person sees: the level first, and plain texts in quotes.
-/

namespace Inspector.Diagnostics

open Number

/-- A value recorded with an event. -/
inductive Recorded where
  /-- A text that a person should see as a text. -/
  | text (s : String)
  /-- A value in its own wording. -/
  | shown (s : String)
  | int (n : Int)
  | float (x : Double)
  | flag (b : Bool)

namespace Recorded

/-- The value as a listener gets it. -/
def plain : Recorded → String
  | text s => s
  | shown s => s
  | int n => n.repr
  | float x => String.ofList (x.text .marked)
  | flag b => if b then "true" else "false"

/-- The value on a console: texts are quoted. -/
def onConsole : Recorded → String
  | text s => Text.quoted s
  | value => value.plain

end Recorded

/-- The name under which an event records its message. -/
def messageName : String := "message"

/-- A diagnostic event. -/
structure Event where
  level : Level
  /-- The part of the program that reports. -/
  origin : String
  /-- The named values in the order in which they were recorded. -/
  values : List (String × Recorded)

/-- A line of text under construction: the message so far and the other values
so far. -/
structure Transcript where
  message : String
  values : String
deriving DecidableEq

namespace Transcript

/-- Nothing recorded yet. -/
def empty : Transcript := ⟨"", ""⟩

/-- Takes in one named value. A later message replaces an earlier one. -/
def record (t : Transcript) (name value : String) : Transcript :=
  if name = messageName then { t with message := value }
  else
    { t with
      values := (if t.values = "" then "" else t.values ++ " ") ++ (name ++ "=" ++ value) }

/-- The finished line. -/
def finish (t : Transcript) : String :=
  if t.values = "" then t.message
  else if t.message = "" then t.values
  else t.message ++ " " ++ t.values

/-- The line of a list of named values. -/
def line (values : List (String × String)) : String :=
  (values.foldl (fun t value => t.record value.1 value.2) empty).finish

end Transcript

namespace Event

/-- An event in words with further values. -/
def of (level : Level) (origin message : String) (values : List (String × Recorded)) : Event :=
  ⟨level, origin, (messageName, .shown message) :: values⟩

/-- The event in one line, as a listener gets it. -/
def line (e : Event) : String :=
  Transcript.line (e.values.map fun value => (value.1, value.2.plain))

/-- One named value on a console. -/
def consoleItem (name : String) (value : Recorded) : String :=
  if name = messageName then Text.forTerminal value.plain
  else name ++ "=" ++ value.onConsole

/-- The event in one line, as a person sees it. -/
def consoleLine (e : Event) : String :=
  String.intercalate " "
    (e.level.name :: e.values.map fun value => consoleItem value.1 value.2)

end Event

end Inspector.Diagnostics
