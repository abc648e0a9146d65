import Inspector.Command.Complaint

/-!
# Scripts

What a command does, step by step: it prints, reports events, reads files, asks
about paths and changes what is there, and in the end it answers or gives up. A
script is data, so that it can be run on a file tree as well as on a disk, and
what follows a step may depend on what the step has brought.

Scripts are put together with `do`; giving up ends the whole of it.
-/

namespace Inspector.Command

open Diagnostics Files

/-- A script. -/
inductive Script (α : Type) where
  | done (answer : α)
  | giveUp (complaint : Complaint)
  | print (text : String) (rest : Script α)
  | report (events : List Event) (rest : Script α)
  | read (path : String) (next : Except FileFault ByteArray → Script α)
  | ask (question : Question) (next : Bool → Script α)
  | change (change : Change) (next : Except FileFault Unit → Script α)

/-- What a script comes to. -/
structure Run (α : Type) where
  /-- The files as the script leaves them. -/
  files : FileTree
  printed : String
  events : List Event
  answer : Except Complaint α

namespace Run

/-- A run that comes after some printed text. -/
def afterText {α : Type} (r : Run α) (text : String) : Run α :=
  { r with printed := text ++ r.printed }

/-- A run that comes after some events. -/
def afterEvents {α : Type} (r : Run α) (events : List Event) : Run α :=
  { r with events := events ++ r.events }

end Run

namespace Script

/-- A script, and what to do with its answer. -/
def andThen {α β : Type} (s : Script α) (next : α → Script β) : Script β :=
  match s with
  | done a => next a
  | giveUp complaint => giveUp complaint
  | print text rest => print text (rest.andThen next)
  | report events rest => report events (rest.andThen next)
  | read path follow => read path fun content => (follow content).andThen next
  | ask question follow => ask question fun answer => (follow answer).andThen next
  | change c follow => change c fun result => (follow result).andThen next

instance : Monad Script where
  pure := done
  bind := andThen

/-- Runs a script on a file tree. A change that fails leaves the tree as it is. -/
def run {α : Type} : Script α → FileTree → Run α
  | done a, t => ⟨t, "", [], .ok a⟩
  | giveUp complaint, t => ⟨t, "", [], .error complaint⟩
  | print text rest, t => (rest.run t).afterText text
  | report events rest, t => (rest.run t).afterEvents events
  | read path next, t => (next (t.read path)).run t
  | ask question next, t => (next (t.ask question)).run t
  | change c next, t =>
    match t.change c with
    | .ok after => (next (.ok ())).run after
    | .error fault => (next (.error fault)).run t

/-- Prints a line. -/
def printLine (line : String) : Script Unit := print (line ++ "\n") (done ())

/-- Reports an event. -/
def say (e : Event) : Script Unit := report [e] (done ())

/-- The answer of something that may have failed. -/
def orGiveUp {α ε : Type} (complain : ε → Complaint) : Except ε α → Script α
  | .ok a => done a
  | .error fault => giveUp (complain fault)

end Script

end Inspector.Command
