import Inspector.Proofs.CSharp.Parts
import Inspector.Proofs.Editor.Reference

/-!
# The expressions of an editor

Where the expressions of an editor stand: the type object in the attribute of its
class, a new label for each serialized field, and the statements of the method
that draws (`Target.exprs_editor`). Whatever holds of all parts of an editor is
read off these three, and of the statements field by field.
-/

namespace Inspector

open CSharp

namespace Target

/-- The statements of the method that draws. -/
def statements (t : Target) : List Expr :=
  .call serializedObject "Update" [] :: t.serializedFields.flatMap (·.statements) ++
    [.call serializedObject "ApplyModifiedProperties" []]

theorem body_method (t : Target) : t.draft.method.body = t.statements := by
  unfold Draft.method statements
  rw [draft_eq]

theorem statements_editor (t : Target) : t.editor.statements = t.statements := by
  rw [CompilationUnit.statements, CompilationUnit.methods_of_members t.members_editor,
    List.flatMap_singleton, body_method]

/-- A statement fetches or stores the values, or is one of those for a field. -/
theorem mem_statements {t : Target} {e : Expr} : e ∈ t.statements ↔
    e = .call serializedObject "Update" [] ∨ (∃ f ∈ t.serializedFields, e ∈ f.statements) ∨
      e = .call serializedObject "ApplyModifiedProperties" [] := by
  simp [statements]

/-- The expressions of an editor: a type object, the labels, and the statements. -/
theorem exprs_editor (t : Target) : t.editor.cls.exprs = .typeOf t.qualifiedName ::
    (t.serializedFields.flatMap (·.labelMember.initial.toList) ++ t.statements) := by
  rw [ClassDecl.exprs, members_editor, List.flatMap_append, List.flatMap_map,
    ← body_method]
  simp [editor, CompilationUnit.of, editorClass, Member.exprs]

/-- The parts of an editor, field by field. -/
theorem parts_editor (t : Target) : t.editor.parts =
    .typeOf t.qualifiedName ::
      (t.serializedFields.flatMap (fun f => Expr.listParts f.labelMember.initial.toList) ++
        ([.call serializedObject "Update" [], serializedObject] ++
          t.serializedFields.flatMap (fun f => Expr.listParts f.statements) ++
          [.call serializedObject "ApplyModifiedProperties" [], serializedObject])) := by
  rw [CompilationUnit.parts, exprs_editor, statements, Expr.listParts, List.cons_append,
    Expr.listParts_append, Expr.listParts_flatMap, Expr.listParts, Expr.listParts_append,
    Expr.listParts_flatMap, ← List.append_assoc]
  rfl

end Target

end Inspector
