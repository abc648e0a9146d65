/-!
# Lines of source

Source is laid out in lines. A line of code knows how deep it stands and is
indented by four spaces for each level; an empty line never is. A block puts
lines between braces, one level deeper.
-/

namespace Inspector.CSharp

/-- A line of source text. -/
inductive Line where
  | empty
  | code (depth : Nat) (text : List Char)
deriving DecidableEq

namespace Line

/-- A line at the outermost level. -/
def outer (text : List Char) : Line := code 0 text

/-- The line one level deeper. -/
def deeper : Line → Line
  | empty => empty
  | code depth text => code (depth + 1) text

/-- The characters of a line, with its end. -/
def chars : Line → List Char
  | empty => ['\n']
  | code depth text => List.replicate (4 * depth) ' ' ++ text ++ ['\n']

/-- Lines in braces, under a heading. -/
def block (heading : List Line) (body : List Line) : List Line :=
  heading ++ outer ['{'] :: body.map deeper ++ [outer ['}']]

/-- Groups of lines with an empty line between any two. -/
def separated : List (List Line) → List Line
  | [] => []
  | [group] => group
  | group :: next :: rest => group ++ empty :: separated (next :: rest)

end Line

end Inspector.CSharp
