import Inspector.Plan
import Inspector.Target.Selection

/-!
# The editor of a target

One class: a label for every serialized field, then the method that draws them
in declaration order, between fetching the values and storing them. The class
is put together field by field, and what has been collected so far is a draft.
-/

namespace Inspector

open CSharp Diagnostics

/-- An editor under construction. -/
structure Draft where
  /-- The labels so far. -/
  labels : List Member
  /-- The statements so far. -/
  statements : List Expr
  /-- The fields so far whose annotations became code. -/
  annotated : List String

namespace Draft

/-- The draft before the first field: the values are fetched. -/
def start : Draft := ⟨[], [.call serializedObject "Update" []], []⟩

/-- The draft with one more field. -/
def add (d : Draft) (f : Field) : Draft where
  labels := d.labels ++ [.field f.plan.label]
  statements := d.statements ++ f.plan.lead ++ [f.plan.body]
  annotated := if f.plan.drawsAnnotations then d.annotated ++ [f.name] else d.annotated

/-- The method that draws: the statements so far, and the values are stored. -/
def method (d : Draft) : MethodDecl where
  access := .isPublic
  overrides := true
  returns := "void"
  name := "OnInspectorGUI"
  body := d.statements ++ [.call serializedObject "ApplyModifiedProperties" []]

/-- The members of the class. -/
def members (d : Draft) : List Member :=
  d.labels ++ [.method d.method]

end Draft

/-- The base type of every editor. -/
def editorBase : String := "UnityEditor.Editor"

/-- The imports of every editor. -/
def editorImports : List String := ["UnityEditor", "UnityEngine"]

namespace Target

/-- The draft of all serialized fields. -/
def draft (t : Target) : Draft :=
  t.serializedFields.foldl Draft.add .start

/-- The class of an editor. -/
def editorClass (t : Target) : ClassDecl where
  access := .isPublic
  name := Naming.editorClass t.name
  base := editorBase
  attributes := [⟨"CustomEditor", [.typeOf t.qualifiedName]⟩]
  members := t.draft.members

/-- The source file of an editor. -/
def editor (t : Target) : CompilationUnit :=
  .of (Naming.editorScope t.scope) editorImports t.editorClass

/-- Where the reports on requests come from. -/
def requestOrigin : String := "editorgen_codegen::generator"

/-- The event on the selection of fields. -/
def selectionEvent (t : Target) : Event :=
  .of .debug requestOrigin "selected serialized fields"
    [("type_name", .shown t.qualifiedName), ("total", .int t.fields.length),
     ("selected", .int t.serializedFields.length)]

/-- The reports on the assembly of an editor. -/
def editorReports (t : Target) : List Report :=
  .event t.selectionEvent :: t.serializedFields.flatMap (·.planReports)

end Target

end Inspector
