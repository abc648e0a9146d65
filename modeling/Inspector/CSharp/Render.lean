import Inspector.CSharp.Line
import Inspector.CSharp.Literal
import Inspector.CSharp.Name

/-!
# Rendering

The text of a source file: a banner, one line per import, and the class, in a
block of its namespace if it has one. Braces stand on lines of their own, and
an empty line separates the members of the class.
-/

namespace Inspector.CSharp

mutual

/-- The text of an expression. -/
def Expr.text : Expr → List Char
  | .str value => stringLiteral value
  | .int value => intLiteral value
  | .float value => floatLiteral value
  | .ident name => name.toList
  | .typeOf type => "typeof(".toList ++ type.toList ++ [')']
  | .member target name => target.text ++ '.' :: name.toList
  | .call target method args =>
    target.text ++ '.' :: method.toList ++ '(' :: Expr.argsText args ++ [')']
  | .create type args => "new ".toList ++ type.toList ++ '(' :: Expr.argsText args ++ [')']

/-- The text of arguments, with commas between them. -/
def Expr.argsText : List Expr → List Char
  | [] => []
  | [e] => e.text
  | e :: next :: rest => e.text ++ ',' :: ' ' :: Expr.argsText (next :: rest)

end

/-- The text of an access modifier. -/
def Access.text : Access → List Char
  | .isPublic => "public".toList
  | .isPrivate => "private".toList

/-- The line of an attribute; empty parentheses are left out. -/
def Attribute.text (a : Attribute) : List Char :=
  match a.args with
  | [] => '[' :: a.name.toList ++ [']']
  | args => '[' :: a.name.toList ++ '(' :: Expr.argsText args ++ [')', ']']

/-- The initial value of a declaration, if it has one. -/
def initialText : Option Expr → List Char
  | some e => " = ".toList ++ e.text
  | none => []

/-- The line of a field declaration. -/
def FieldDecl.text (f : FieldDecl) : List Char :=
  f.access.text ++ ' ' :: f.type.toList ++ ' ' :: f.name.toList ++ initialText f.initial ++ [';']

/-- The line of a statement. -/
def statementText (e : Expr) : List Char :=
  e.text ++ [';']

/-- The first line of a method. -/
def MethodDecl.signature (m : MethodDecl) : List Char :=
  m.access.text ++ (if m.overrides then " override".toList else []) ++
    ' ' :: m.returns.toList ++ ' ' :: m.name.toList ++ ['(', ')']

/-- The lines of a member. -/
def Member.lines : Member → List Line
  | .field f => [.outer f.text]
  | .method m => Line.block [.outer m.signature] (m.body.map fun e => .outer (statementText e))

/-- The line that opens a class. -/
def ClassDecl.heading (c : ClassDecl) : List Char :=
  c.access.text ++ " class ".toList ++ c.name.toList ++ " : ".toList ++ c.base.toList

/-- The lines of a class. -/
def ClassDecl.lines (c : ClassDecl) : List Line :=
  Line.block (c.attributes.map (fun a => .outer a.text) ++ [.outer c.heading])
    (Line.separated (c.members.map (·.lines)))

/-- The banner of every generated file. -/
def banner : List String :=
  ["//------------------------------------------------------------------------------",
   "// <auto-generated>",
   "//     This code was generated by editorgen.",
   "//",
   "//     Changes to this file may cause incorrect behavior and will be lost if",
   "//     the code is regenerated.",
   "// </auto-generated>",
   "//------------------------------------------------------------------------------"]

/-- The line of an import. -/
def importText (name : String) : List Char :=
  "using ".toList ++ name.toList ++ [';']

/-- The lines before the class or its namespace. -/
def preludeLines (imports : List String) : List Line :=
  banner.map (fun line => .outer line.toList) ++ .empty ::
    imports.map (fun name => .outer (importText name)) ++
    (if imports.isEmpty then [] else [.empty])

namespace CompilationUnit

/-- The class with its namespace around it. -/
def bodyLines (u : CompilationUnit) : List Line :=
  match u.scope with
  | some scope => Line.block [.outer ("namespace ".toList ++ scope.toList)] u.cls.lines
  | none => u.cls.lines

/-- The lines of a source file. -/
def lines (u : CompilationUnit) : List Line :=
  preludeLines u.imports ++ u.bodyLines

/-- The text of a source file, whether or not its names are there. -/
def text (u : CompilationUnit) : String :=
  String.ofList (u.lines.flatMap (·.chars))

/-- Renders a source file, unless a name that must be there is empty. -/
def render (u : CompilationUnit) : Except NameRole String :=
  match u.missingName? with
  | some role => .error role
  | none => .ok u.text

end CompilationUnit

end Inspector.CSharp
