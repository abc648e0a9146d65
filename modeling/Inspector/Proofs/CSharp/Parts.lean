import Inspector.CSharp.Syntax

/-!
# The parts of an expression

What is said of the expressions of a source file at any depth is said of their
parts: an expression is a part of itself, and so are the parts of its target and
of its arguments. What the parts hold is read off each of them by itself: the
content of a string literal, or the name on which a chain starts.
-/

namespace Inspector.CSharp

namespace Expr

mutual

/-- An expression and all expressions in it. -/
def parts : Expr → List Expr
  | str value => [str value]
  | int value => [int value]
  | float value => [float value]
  | ident name => [ident name]
  | typeOf type => [typeOf type]
  | member target name => member target name :: target.parts
  | call target method args => call target method args :: target.parts ++ listParts args
  | create type args => create type args :: listParts args

/-- The parts of some expressions. -/
def listParts : List Expr → List Expr
  | [] => []
  | e :: rest => e.parts ++ listParts rest

end

@[simp] theorem parts_str (value : String) : (str value).parts = [str value] := rfl

@[simp] theorem parts_int (value : Int) : (int value).parts = [int value] := rfl

@[simp] theorem parts_float (value : Number.Single) : (float value).parts = [float value] := rfl

@[simp] theorem parts_ident (name : String) : (ident name).parts = [ident name] := rfl

@[simp] theorem parts_typeOf (type : String) : (typeOf type).parts = [typeOf type] := rfl

@[simp] theorem parts_member (target : Expr) (name : String) :
    (member target name).parts = member target name :: target.parts := rfl

@[simp] theorem parts_call (target : Expr) (method : String) (args : List Expr) :
    (call target method args).parts =
      call target method args :: (target.parts ++ listParts args) := rfl

@[simp] theorem parts_create (type : String) (args : List Expr) :
    (create type args).parts = create type args :: listParts args := rfl

theorem listParts_eq (es : List Expr) : listParts es = es.flatMap parts := by
  induction es with
  | nil => rfl
  | cons e rest ih => rw [listParts, ih, List.flatMap_cons]

theorem listParts_append (es more : List Expr) :
    listParts (es ++ more) = listParts es ++ listParts more := by
  simp only [listParts_eq, List.flatMap_append]

theorem listParts_flatMap {α : Type} (xs : List α) (f : α → List Expr) :
    listParts (xs.flatMap f) = xs.flatMap fun x => listParts (f x) := by
  simp only [listParts_eq, List.flatMap_assoc]

/-! ## What a part holds -/

/-- The content of a string literal. -/
def content? : Expr → Option String
  | str value => some value
  | _ => none

/-- The name on which a member access or a call starts. -/
def receiver? : Expr → Option String
  | member (ident name) _ => some name
  | call (ident name) _ _ => some name
  | _ => none

/-- The contents of the string literals in some expressions. -/
def contents (es : List Expr) : List String :=
  (listParts es).filterMap (·.content?)

/-- The names on which the chains in some expressions start. -/
def receivers (es : List Expr) : List String :=
  (listParts es).filterMap (·.receiver?)

theorem mem_receivers {name : String} {es : List Expr} :
    name ∈ receivers es ↔ ∃ e ∈ es, name ∈ receivers [e] := by
  simp only [receivers, listParts_eq, List.mem_filterMap, List.mem_flatMap, List.mem_singleton,
    exists_eq_left]
  constructor
  · rintro ⟨p, ⟨e, mem, part⟩, start⟩
    exact ⟨e, mem, p, part, start⟩
  · rintro ⟨e, mem, p, part, start⟩
    exact ⟨p, ⟨e, mem, part⟩, start⟩

theorem contents_append (es more : List Expr) :
    contents (es ++ more) = contents es ++ contents more := by
  simp only [contents, listParts_append, List.filterMap_append]

theorem contents_flatMap {α : Type} (xs : List α) (f : α → List Expr) :
    contents (xs.flatMap f) = xs.flatMap fun x => contents (f x) := by
  simp only [contents, listParts_flatMap, List.filterMap_flatMap]

end Expr

/-! ## Source files -/

/-- The expressions of a member. -/
def Member.exprs : Member → List Expr
  | field f => f.initial.toList
  | method m => m.body

/-- The expressions of a class: those of its attributes and of its members. -/
def ClassDecl.exprs (c : ClassDecl) : List Expr :=
  c.attributes.flatMap (·.args) ++ c.members.flatMap (·.exprs)

/-- The parts of all expressions of a source file. -/
def CompilationUnit.parts (u : CompilationUnit) : List Expr :=
  Expr.listParts u.cls.exprs

/-- The contents of all string literals of a source file. -/
def CompilationUnit.contents (u : CompilationUnit) : List String :=
  Expr.contents u.cls.exprs

end Inspector.CSharp
