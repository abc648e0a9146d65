import Inspector.Text.Capital

/-!
# Derived names

The names of generated things, each made from a name of the target.
-/

namespace Inspector.Naming

/-- The class of the editor of a type. -/
def editorClass (typeName : String) : String :=
  typeName ++ "Editor"

/-- The namespace of an editor: a segment below that of its target. Without a
namespace there is none. -/
def editorScope (scope : Option String) : Option String :=
  (scope.filter (· ≠ "")).map (· ++ ".Editor")

/-- The member that labels a field. -/
def labelField (fieldName : String) : String :=
  fieldName ++ "Content"

/-- The file of the editor of a type. -/
def sourceFile (typeName : String) : String :=
  editorClass typeName ++ ".cs"

/-- A name with a capital at its start. -/
def capitalized (name : String) : String :=
  String.ofList (Text.capitalize name.toList)

end Inspector.Naming
