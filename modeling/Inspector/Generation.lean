import Inspector.CSharp.Render
import Inspector.Destination
import Inspector.Editor
import Inspector.Target.Validity

/-!
# Generation requests

A request is built from a target and then rendered for a destination. It
remembers its phase, and between the two operations the assembled editor. Each
operation is a step: it takes the request to another one, answers or fails, and
reports what happened on the way, also when it fails.
-/

namespace Inspector

open CSharp Diagnostics

/-- A request. -/
structure Generation where
  phase : Phase
  typeName : String
  /-- The assembled editor, while it waits to be rendered. -/
  held : Option CompilationUnit
  /-- The fields whose annotations the editor draws. -/
  annotated : List String

namespace Generation

/-- A fresh request. -/
def initial : Generation := ⟨.idle, "", none, []⟩

end Generation

/-- Rendered source and the file it is for. -/
structure Source where
  text : String
  /-- The suggested file name. -/
  fileName : String
  path : String
  /-- The fields whose annotations the editor draws. Left on the target they would
  be drawn twice. -/
  annotated : List String
deriving DecidableEq

/-- Why an operation of a request fails. -/
inductive Failure where
  | refused (refusal : Refusal)
  /-- The assembled editor lacks a name. -/
  | malformed (role : NameRole)
deriving DecidableEq

/-- The end of a step. -/
structure Outcome (α : Type) where
  request : Generation
  answer : Except Failure α
  reports : List Report

/-- The end of a step that comes after some reports. -/
def Outcome.after {α : Type} (o : Outcome α) (reports : List Report) : Outcome α :=
  { o with reports := reports ++ o.reports }

/-- An operation of a request. -/
def Step (α : Type) : Type := Generation → Outcome α

namespace Step

/-- Answers without doing anything. -/
def answer {α : Type} (a : α) : Step α := fun g => ⟨g, .ok a, []⟩

/-- Fails. -/
def fail {α : Type} (failure : Failure) : Step α := fun g => ⟨g, .error failure, []⟩

/-- Reports. -/
def report (reports : List Report) : Step Unit := fun g => ⟨g, .ok (), reports⟩

/-- Goes on with the answer of a step, unless the step failed. -/
def andThen {α β : Type} (s : Step α) (next : α → Step β) : Step β := fun g =>
  match s g with
  | ⟨after, .error failure, reports⟩ => ⟨after, .error failure, reports⟩
  | ⟨after, .ok a, reports⟩ => (next a after).after reports

instance : Monad Step where
  pure := answer
  bind := andThen

end Step

namespace Generation

/-- The event on a change of phase. -/
def phaseEvent (old new : Phase) : Event :=
  .of .debug Target.requestOrigin "generation state change"
    [("from", .shown old.name), ("to", .shown new.name)]

/-- The event on a refusal. -/
def refusalEvent (refusal : Refusal) : Event :=
  .of .warn Target.requestOrigin "generation request rejected" [("error", .shown refusal.message)]

/-- The event on a dismissed destination. -/
def cancelEvent (typeName : String) : Event :=
  .of .info Target.requestOrigin "generation cancelled" [("type_name", .shown typeName)]

/-- The event on finished source. -/
def renderedEvent (path text : String) : Event :=
  .of .debug Target.requestOrigin "rendered editor source"
    [("path", .shown path), ("bytes", .int text.utf8ByteSize)]

/-- Fails unless the request is in a phase. -/
def require (expected : Phase) : Step Unit := fun g =>
  if g.phase = expected then Step.answer () g
  else Step.fail (.refused (.invalidState expected g.phase)) g

/-- Takes the request to another phase, if that is a step it may take. -/
def advance (next : Phase) : Step Unit := fun g =>
  if g.phase.canAdvance next then
    ⟨{ g with phase := next }, .ok (), [.event (phaseEvent g.phase next)]⟩
  else Step.fail (.refused (.invalidState next g.phase)) g

/-- Keeps the editor of a target. -/
def keep (t : Target) : Step Unit := fun g =>
  ⟨{ g with typeName := t.name, held := some t.editor, annotated := t.draft.annotated }, .ok (), []⟩

/-- Takes the kept editor out of the request. -/
def take : Step (Option CompilationUnit) := fun g =>
  ⟨{ g with held := none }, .ok g.held, []⟩

/-- Takes the names of the annotated fields out of the request. -/
def takeAnnotated : Step (List String) := fun g =>
  ⟨{ g with annotated := [] }, .ok g.annotated, []⟩

/-- Looks at the request. -/
def look : Step Generation := fun g => Step.answer g g

/-- Turns a request down. -/
def turnDown (refusal : Refusal) : Step Unit := do
  Step.report [.event (refusalEvent refusal)]
  advance .failed
  Step.fail (.refused refusal)

/-- Assembles the editor of an acceptable target. -/
def assemble (t : Target) : Step Unit := do
  advance .building
  Step.report t.editorReports
  keep t
  advance .built

/-- Checks a target and assembles its editor. -/
def build (target : Option Target) : Step Unit := do
  require .idle
  advance .validating
  match Target.accept target with
  | .ok t => assemble t
  | .error refusal => turnDown refusal

/-- Renders an editor that was taken out of the request. -/
def finish (unit : CompilationUnit) (path : String) : Step (Option Source) := do
  match unit.render with
  | .error role => Step.fail (.malformed role)
  | .ok text =>
    advance .rendered
    Step.report [.event (renderedEvent path text)]
    let g ← look
    return some ⟨text, Naming.sourceFile g.typeName, path, ← takeAnnotated⟩

/-- Renders the kept editor for a destination. There is no source when the
destination was dismissed. -/
def render (destination : Destination) : Step (Option Source) := do
  require .built
  let g ← look
  match ← take with
  | none => Step.fail (.refused (.invalidState .built g.phase))
  | some unit =>
    match destination.path? (Naming.sourceFile g.typeName) with
    | some path => finish unit path
    | none =>
      Step.report [.event (cancelEvent g.typeName)]
      advance .cancelled
      return none

/-- A whole request: builds and renders. -/
def generate (target : Option Target) (destination : Destination) : Step (Option Source) := do
  build target
  render destination

end Generation

/-- The editor of a target for a destination, by a fresh request. -/
def generateEditor (target : Option Target) (destination : Destination) :
    Outcome (Option Source) :=
  Generation.generate target destination .initial

end Inspector
