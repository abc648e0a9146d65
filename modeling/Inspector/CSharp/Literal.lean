import Inspector.Number.Notation

/-!
# Literals

The literals of generated source. A string literal is in double quotes and has
six escapes; every other character stands for itself. A float literal is a
number written out, with a suffix; the three values without digits are
constants of the host.
-/

namespace Inspector.CSharp

open Number

/-- A character as it stands inside a string literal. -/
def escapeChar (c : Char) : List Char :=
  match c with
  | '\\' => ['\\', '\\']
  | '"' => ['\\', '"']
  | '\n' => ['\\', 'n']
  | '\r' => ['\\', 'r']
  | '\t' => ['\\', 't']
  | '\x00' => ['\\', '0']
  | c => [c]

/-- A string literal. -/
def stringLiteral (value : String) : List Char :=
  '"' :: value.toList.flatMap escapeChar ++ ['"']

/-- An integer literal. -/
def intLiteral (value : Int) : List Char :=
  value.repr.toList

/-- A literal of single precision. -/
def floatLiteral : Single → List Char
  | .nan => "float.NaN".toList
  | .infinite false => "float.PositiveInfinity".toList
  | .infinite true => "float.NegativeInfinity".toList
  | value => value.text .plain ++ ['f']

end Inspector.CSharp
