import Inspector.Generation

/-!
# Inspection

A dry run: the editor of a target is assembled and nothing is rendered. What is
told of it is how much would be drawn, and what would not.
-/

namespace Inspector

open Diagnostics

/-- What a dry run tells of an accepted target. -/
structure Summary where
  typeName : String
  /-- How many fields are serialized. -/
  selected : Nat
  notices : List Notice
deriving DecidableEq

namespace Target

/-- The assembly of the editor of a target by a fresh request. -/
def assembly (t : Target) : Outcome Unit :=
  Generation.build (some t) .initial

/-- What a dry run tells of a target. -/
def inspect (t : Target) : Except Failure Summary :=
  t.assembly.answer.map fun _ =>
    ⟨t.qualifiedName, t.serializedFields.length, Report.notices t.assembly.reports⟩

end Target

end Inspector
