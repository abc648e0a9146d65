import Inspector.Text.Segment

/-!
# Paths

A path is a text with slashes between its pieces. Empty pieces lead nowhere, nor
does a piece that is one dot, unless the path starts with it; every other piece
is a step. What a path passes through are its beginnings that end in a step.
-/

namespace Inspector.Files

open Text

/-- Whether a path starts at the root. -/
def isRooted (path : String) : Bool :=
  path.toList.head? == some '/'

/-- A path below a directory: a slash goes between them, unless the directory is
empty or ends with one. A path that starts at the root is not below any
directory and stays what it is. -/
def join (directory name : String) : String :=
  if isRooted name then name
  else if directory = "" || directory.toList.getLast? = some '/' then directory ++ name
  else directory ++ "/" ++ name

/-- Whether a path can only lead to a directory, because a slash ends it. -/
def endsInSlash (path : String) : Bool :=
  path.toList.getLast? == some '/'

/-- The names on a path, in order. -/
def names (path : String) : List String :=
  ((segments '/' path.toList).filter fun piece => piece != []).map String.ofList

/-- The beginnings of a list, from its first element to the whole of it. -/
def beginnings {α : Type} : List α → List (List α)
  | [] => []
  | a :: rest => [a] :: (beginnings rest).map (a :: ·)

/-- Whether the last piece of a beginning is a step. -/
def endsInStep (pieces : List (List Char)) : Bool :=
  match pieces.getLast? with
  | none => false
  | some piece => piece != [] && (piece != ['.'] || pieces.length == 1)

/-- What a path passes through, from its start on. -/
def trail (path : String) : List (List (List Char)) :=
  (beginnings (segments '/' path.toList)).filter endsInStep

/-- The path that consists of some pieces. -/
def ofPieces (pieces : List (List Char)) : String :=
  String.ofList (List.intercalate ['/'] pieces)

/-- The directories above the end of a path, the nearest first. The working
directory is not among them. -/
def ancestors (path : String) : List String :=
  match trail path with
  | [] => []
  | stations =>
    stations.dropLast.reverse.map ofPieces ++ if isRooted path then ["/"] else []

/-- The name at the end of a path, if its last step is a name. -/
def fileName? (path : String) : Option (List Char) :=
  match (trail path).getLast?.bind (·.getLast?) with
  | none => none
  | some name => if name = ['.'] || name = ['.', '.'] then none else some name

/-- What follows the last dot of the name at the end of a path. A dot that starts
the name does not count. -/
def extension? (path : String) : Option String :=
  match (fileName? path).map (segments '.') with
  | none => none
  | some [_] => none
  | some [[], _] => none
  | some pieces => pieces.getLast?.map String.ofList

end Inspector.Files
