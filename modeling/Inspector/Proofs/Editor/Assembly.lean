import Inspector.Editor

/-!
# The assembled editor

A draft grows field by field, in its labels, its statements and its list of
annotated fields at once. Here the three are said in one go: each is a
concatenation over the fields, in their order (`Draft.foldl_add`).

So the class of an editor has a label for each serialized field, in the order of
the fields, and then the method that draws them (`Target.members_editor`).
-/

namespace Inspector

open CSharp

/-! ## Classes with fields and a method -/

namespace CSharp.CompilationUnit

variable {α : Type} {u : CompilationUnit} {xs : List α} {field : α → FieldDecl} {m : MethodDecl}
  (members : u.cls.members = xs.map (fun x => .field (field x)) ++ [.method m])
include members

theorem fields_of_members : u.fields = xs.map field := by
  rw [fields, members, List.filterMap_append, List.filterMap_map]
  exact (List.append_nil _).trans (congrFun List.filterMap_eq_map' xs)

theorem methods_of_members : u.methods = [m] := by
  rw [methods, members, List.filterMap_append, List.filterMap_map]
  simp

end CSharp.CompilationUnit

/-! ## Drafts -/

/-- The statements for a field. -/
def Field.statements (f : Field) : List Expr :=
  f.leadStatements ++ [f.drawStatement]

/-- A draft with more fields has, in each of its lists, what each field brings. -/
theorem Draft.foldl_add (d : Draft) (fields : List Field) :
    fields.foldl Draft.add d =
      { labels := d.labels ++ fields.map fun f => .field f.labelMember
        statements := d.statements ++ fields.flatMap (·.statements)
        annotated :=
          d.annotated ++ (fields.filter (·.plan.drawsAnnotations)).map (·.name) } := by
  induction fields generalizing d with
  | nil => simp
  | cons f rest ih =>
    have annotated : (d.add f).annotated =
        d.annotated ++ ([f].filter (·.plan.drawsAnnotations)).map (·.name) := by
      cases draws : f.plan.drawsAnnotations <;> simp [add, draws]
    rw [List.foldl_cons, ih, annotated]
    simp only [add, Field.plan, Field.statements, List.append_assoc, List.map_cons,
      List.flatMap_cons, List.cons_append, List.nil_append]
    rw [← List.map_append, ← List.filter_append]
    rfl

namespace Target

/-- The statements that draw the fields of a target, between fetching the values
and storing them. -/
theorem draft_eq (t : Target) :
    t.draft =
      { labels := t.serializedFields.map fun f => .field f.labelMember
        statements :=
          .call serializedObject "Update" [] :: t.serializedFields.flatMap (·.statements)
        annotated :=
          (t.serializedFields.filter (·.plan.drawsAnnotations)).map (·.name) } := by
  rw [draft, Draft.foldl_add]
  rfl

/-! ## Members -/

/-- The class of an editor has the labels and, behind them, the method that draws. -/
theorem members_editor (t : Target) : t.editor.cls.members =
    (t.serializedFields.map fun f => .field f.labelMember) ++ [.method t.draft.method] := by
  have labels : t.draft.labels = t.serializedFields.map fun f => .field f.labelMember := by
    rw [draft_eq]
  rw [← labels]
  rfl

theorem fields_editor (t : Target) : t.editor.fields = t.serializedFields.map (·.labelMember) :=
  CompilationUnit.fields_of_members t.members_editor

end Target

end Inspector
