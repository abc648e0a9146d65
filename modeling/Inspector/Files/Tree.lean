import Inspector.Files.Path

/-!
# File trees

What the program asks of a file system, and a file system to ask it of. Anything
in a tree has a location: the names on the way from the root. A path leads to a
location by its steps, each of which starts in a directory; at the last of them
there need not be anything yet.
-/

namespace Inspector.Files

/-- Why something cannot be done with a path. -/
inductive FileFault where
  /-- There is nothing on the way, or at the end. -/
  | missing
  /-- There is a file where the way goes on. -/
  | noDirectory
  /-- There is a directory where a file should be. -/
  | directory
  /-- There is something already. -/
  | occupied
  /-- A name is too long. -/
  | longName
  /-- Anything else, in the words of the system. -/
  | other (description : String)
deriving DecidableEq

/-- The fault in words. -/
def FileFault.message : FileFault → String
  | missing => "No such file or directory (os error 2)"
  | noDirectory => "Not a directory (os error 20)"
  | directory => "Is a directory (os error 21)"
  | occupied => "File exists (os error 17)"
  | longName => "File name too long (os error 36)"
  | other description => description

/-- A question about a path. -/
inductive Question where
  | isFile (path : String)
  | isDirectory (path : String)

/-- A change to a file system. -/
inductive Change where
  /-- Removes a file. -/
  | remove (path : String)
  /-- Makes a directory. -/
  | makeDirectory (path : String)
  /-- Gives a file, which may be a new one, a content. -/
  | write (path : String) (content : ByteArray)

/-- The names on the way from the root. -/
abbrev Location := List String

/-- What is at a location. -/
inductive Node where
  | file (content : ByteArray)
  | directory

/-- A file tree. -/
structure FileTree where
  /-- What there is below the root, and where. -/
  nodes : List (Location × Node)
  /-- Where paths start that do not start at the root. -/
  workplace : Location

/-- The size of the longest name, in bytes. -/
def longestName : Nat := 255

/-- The size of the longest path, in bytes. -/
def longestPath : Nat := 4095

namespace FileTree

/-- What is at a location. -/
def node? (t : FileTree) (l : Location) : Option Node :=
  if l = [] then some .directory else t.nodes.lookup l

/-- The tree without what is at a location. -/
def erase (t : FileTree) (l : Location) : FileTree :=
  { t with nodes := t.nodes.filter fun entry => entry.1 != l }

/-- The tree with something at a location, in place of what was there. -/
def insert (t : FileTree) (l : Location) (n : Node) : FileTree :=
  { t with nodes := (l, n) :: (t.erase l).nodes }

/-- One step of a path. -/
def step (t : FileTree) (here : Location) (name : String) : Except FileFault Location :=
  match t.node? here with
  | none => .error .missing
  | some (.file _) => .error .noDirectory
  | some .directory =>
    if name = "." then .ok here
    else if name = ".." then .ok here.dropLast
    else if longestName < name.utf8ByteSize then .error .longName
    else .ok (here ++ [name])

/-- The location that a path leads to. -/
def locate (t : FileTree) (path : String) : Except FileFault Location :=
  if path = "" then .error .missing
  else if longestPath < path.utf8ByteSize then .error .longName
  else (names path).foldlM t.step (if isRooted path then [] else t.workplace)

/-- What a path leads to, and where. -/
def find (t : FileTree) (path : String) : Except FileFault (Location × Option Node) :=
  (t.locate path).map fun l => (l, t.node? l)

/-- The content of a file. -/
def read (t : FileTree) (path : String) : Except FileFault ByteArray :=
  match t.find path with
  | .error fault => .error fault
  | .ok (_, none) => .error .missing
  | .ok (_, some .directory) => .error .directory
  | .ok (_, some (.file content)) =>
    if endsInSlash path then .error .noDirectory else .ok content

/-- Whether something is the case. -/
def ask (t : FileTree) : Question → Bool
  | .isFile path => (t.read path).isOk
  | .isDirectory path =>
    match t.find path with
    | .ok (_, some .directory) => true
    | _ => false

/-- The tree without a file. -/
def remove (t : FileTree) (path : String) : Except FileFault FileTree :=
  match t.find path with
  | .error fault => .error fault
  | .ok (_, none) => .error .missing
  | .ok (_, some .directory) => .error .directory
  | .ok (l, some (.file _)) =>
    if endsInSlash path then .error .noDirectory else .ok (t.erase l)

/-- The tree with a new directory. -/
def makeDirectory (t : FileTree) (path : String) : Except FileFault FileTree :=
  match t.find path with
  | .error fault => .error fault
  | .ok (l, none) => .ok (t.insert l .directory)
  | .ok (_, some _) => .error .occupied

/-- The tree with a content for a file. -/
def write (t : FileTree) (path : String) (content : ByteArray) : Except FileFault FileTree :=
  match t.find path with
  | .error fault => .error fault
  | .ok (_, some .directory) => .error .directory
  | .ok (l, _) =>
    if endsInSlash path then .error .directory else .ok (t.insert l (.file content))

/-- The tree after a change. -/
def change (t : FileTree) : Change → Except FileFault FileTree
  | .remove path => t.remove path
  | .makeDirectory path => t.makeDirectory path
  | .write path content => t.write path content

/-- The tree with a file and all directories above it. -/
def addFile (t : FileTree) (l : Location) (content : ByteArray) : FileTree :=
  ((beginnings l.dropLast).foldl (fun t above => t.insert above .directory) t).insert l
    (.file content)

/-- The tree that has nothing but its working directory and files in it. -/
def ofFiles (workplace : Location) (files : List (String × ByteArray)) : FileTree :=
  files.foldl (fun t entry => t.addFile (workplace ++ names entry.1) entry.2)
    ⟨(beginnings workplace).map fun l => (l, .directory), workplace⟩

/-- The files of a tree. -/
def files (t : FileTree) : List (Location × ByteArray) :=
  t.nodes.filterMap fun
    | (l, .file content) => some (l, content)
    | (_, .directory) => none

end FileTree

end Inspector.Files
