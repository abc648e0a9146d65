import Inspector.Number.Binary

/-!
# The syntax of a generated editor

The part of the language that an editor is made of: one class with attributes,
fields and methods, perhaps in a namespace, after some imports. Every statement
is an expression.
-/

namespace Inspector.CSharp

open Number

/-- The access modifier of a declaration. -/
inductive Access where
  | isPublic
  | isPrivate
deriving DecidableEq

/-- An expression. -/
inductive Expr where
  /-- A string literal of any content. -/
  | str (value : String)
  | int (value : Int)
  | float (value : Single)
  | ident (name : String)
  /-- The type object of a named type. -/
  | typeOf (type : String)
  | member (target : Expr) (name : String)
  | call (target : Expr) (method : String) (args : List Expr)
  /-- A new object of a named type. -/
  | create (type : String) (args : List Expr)

/-- An attribute of a class. -/
structure Attribute where
  name : String
  args : List Expr

/-- The declaration of a field, with an initial value or without. -/
structure FieldDecl where
  access : Access
  type : String
  name : String
  initial : Option Expr

/-- The declaration of a method without parameters. -/
structure MethodDecl where
  access : Access
  overrides : Bool
  returns : String
  name : String
  body : List Expr

/-- A member of a class. -/
inductive Member where
  | field (f : FieldDecl)
  | method (m : MethodDecl)

/-- The declaration of a class. -/
structure ClassDecl where
  access : Access
  name : String
  base : String
  attributes : List Attribute
  members : List Member

/-- A source file. -/
structure CompilationUnit where
  scope : Option String
  imports : List String
  cls : ClassDecl

/-- The texts of a list without repetitions, each where it occurs first. -/
def firstOccurrences (texts : List String) : List String :=
  texts.foldl (fun seen text => if text ∈ seen then seen else seen ++ [text]) []

namespace CompilationUnit

/-- A source file with each import once. -/
def of (scope : Option String) (imports : List String) (cls : ClassDecl) : CompilationUnit :=
  ⟨scope, firstOccurrences imports, cls⟩

/-- The field declarations in member order. -/
def fields (u : CompilationUnit) : List FieldDecl :=
  u.cls.members.filterMap fun
    | .field f => some f
    | .method _ => none

/-- The method declarations in member order. -/
def methods (u : CompilationUnit) : List MethodDecl :=
  u.cls.members.filterMap fun
    | .method m => some m
    | .field _ => none

end CompilationUnit

end Inspector.CSharp
