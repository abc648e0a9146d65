import Inspector.Files.Path

/-!
# Destinations

Where the source of an editor should go.
-/

namespace Inspector

/-- The answer to the question where to save. -/
inductive Destination where
  /-- Into a directory, under the suggested name. -/
  | directory (path : String)
  /-- To a path that is used as it is. -/
  | file (path : String)
  /-- The question was dismissed. -/
  | cancelled
deriving DecidableEq

/-- The path at a destination for a suggested name. -/
def Destination.path? (d : Destination) (fileName : String) : Option String :=
  match d with
  | directory path => some (Files.join path fileName)
  | file path => some path
  | cancelled => none

end Inspector
