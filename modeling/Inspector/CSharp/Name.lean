import Inspector.CSharp.Syntax

/-!
# Names that must be there

Source text has a name at many places, and most of them would be meaningless if
the name were empty. This module lists the names of a source file that must not
be, in the order of the text, each with what it names.
-/

namespace Inspector.CSharp

/-- What a name is for. -/
inductive NameRole where
  | className
  | baseType
  | attributeName
  | fieldName
  | fieldType
  | methodName
  | returnType
  | identifier
  | typeOperand
  | calledMethod
  | constructedType
deriving DecidableEq

/-- The role in words. -/
def NameRole.description : NameRole → String
  | className => "class"
  | baseType => "base type"
  | attributeName => "attribute"
  | fieldName => "field"
  | fieldType => "field type"
  | methodName => "method"
  | returnType => "return type"
  | identifier => "identifier"
  | typeOperand => "typeof operand"
  | calledMethod => "called method"
  | constructedType => "constructed type"

mutual

/-- The required names of an expression. The name of a member is not one of
them. -/
def Expr.names : Expr → List (NameRole × String)
  | .str _ => []
  | .int _ => []
  | .float _ => []
  | .ident name => [(.identifier, name)]
  | .typeOf type => [(.typeOperand, type)]
  | .member target _ => target.names
  | .call target method args => (.calledMethod, method) :: target.names ++ Expr.listNames args
  | .create type args => (.constructedType, type) :: Expr.listNames args

/-- The required names of some expressions. -/
def Expr.listNames : List Expr → List (NameRole × String)
  | [] => []
  | e :: rest => e.names ++ Expr.listNames rest

end

/-- The required names of an attribute. -/
def Attribute.names (a : Attribute) : List (NameRole × String) :=
  (.attributeName, a.name) :: Expr.listNames a.args

/-- The required names of a field declaration. -/
def FieldDecl.names (f : FieldDecl) : List (NameRole × String) :=
  (.fieldName, f.name) :: (.fieldType, f.type) :: Expr.listNames f.initial.toList

/-- The required names of a method declaration. -/
def MethodDecl.names (m : MethodDecl) : List (NameRole × String) :=
  (.methodName, m.name) :: (.returnType, m.returns) :: Expr.listNames m.body

/-- The required names of a member. -/
def Member.names : Member → List (NameRole × String)
  | .field f => f.names
  | .method m => m.names

/-- The required names of a class. -/
def ClassDecl.names (c : ClassDecl) : List (NameRole × String) :=
  (.className, c.name) :: (.baseType, c.base) ::
    c.attributes.flatMap (·.names) ++ c.members.flatMap (·.names)

/-- What the first empty name of a source file is for, if one is empty. -/
def CompilationUnit.missingName? (u : CompilationUnit) : Option NameRole :=
  (u.cls.names.find? fun name => name.2 == "").map (·.1)

/-- The message on a source file with an empty name. -/
def NameRole.missingMessage (role : NameRole) : String :=
  "render precondition violated: " ++ role.description ++ " has an empty name"

end Inspector.CSharp
