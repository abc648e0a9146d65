import Inspector.Text.Numeric
import Inspector.Text.Segment

/-!
# Identifiers

The names that may stand in generated source: a letter or an underscore,
followed by letters, numbers and underscores, and none of the reserved words.
-/

namespace Inspector

/-- The reserved words of the generated language. -/
def keywords : List String :=
  ["abstract", "as", "base", "bool", "break", "byte", "case", "catch", "char", "checked",
   "class", "const", "continue", "decimal", "default", "delegate", "do", "double", "else",
   "enum", "event", "explicit", "extern", "false", "finally", "fixed", "float", "for",
   "foreach", "goto", "if", "implicit", "in", "int", "interface", "internal", "is", "lock",
   "long", "namespace", "new", "null", "object", "operator", "out", "override", "params",
   "private", "protected", "public", "readonly", "ref", "return", "sbyte", "sealed",
   "short", "sizeof", "stackalloc", "static", "string", "struct", "switch", "this",
   "throw", "true", "try", "typeof", "uint", "ulong", "unchecked", "unsafe", "ushort",
   "using", "virtual", "void", "volatile", "while"]

/-- May start an identifier. -/
def startsIdentifier (c : Char) : Bool :=
  c == '_' || Text.isAlphabetic c

/-- May follow the start of an identifier. -/
def continuesIdentifier (c : Char) : Bool :=
  c == '_' || Text.isAlphanumeric c

/-- The shape of an identifier, reserved words included. -/
def hasIdentifierShape : List Char → Bool
  | [] => false
  | c :: rest => startsIdentifier c && rest.all continuesIdentifier

/-- Whether a text is an identifier. -/
def isIdentifier (text : String) : Bool :=
  hasIdentifierShape text.toList && !keywords.contains text

/-- Whether a text is a list of identifiers with dots between them. -/
def isDottedName (text : String) : Bool :=
  (Text.segments '.' text.toList).all fun piece => isIdentifier (String.ofList piece)

end Inspector
