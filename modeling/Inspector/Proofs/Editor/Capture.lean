import Inspector.Proofs.Editor.Expressions
import Inspector.Proofs.Editor.Names

/-!
# Names of the host in an editor

An editor refers to things of the host by simple names: to the attribute of its
class, and in its statements to what its chains start on. A declaration of the
editor with one of these names would take the place of what is meant.

No label has such a name, since none of them ends in the word of the labels. The
name of the class ends in a word that one of them ends in: the class of the
editor of a target called `Custom` has the name of its own attribute
(`captured_attribute_custom`).

**The law** (`Target.captures_iff`): that is the only case. In the editor of every
other accepted target no declaration has the name of an attribute or of a start of
a chain.

**What it does not say.** Types are referred to by names too, that of the labels
and that of the target if it is in no namespace. Such a name stands where only a
type can be meant, and it is not counted here: a field called `GUI` has a label
that is called like the type of the labels.
-/

namespace Inspector

open CSharp

/-- The attributes of the class of a source file, and what the chains in its statements
start on. The names of types are not among them. -/
def CSharp.CompilationUnit.borrowed (u : CompilationUnit) : List String :=
  u.cls.attributes.map (·.name) ++ Expr.receivers u.statements

/-- The names on which the chains in an editor start. -/
def receiverNames : List String :=
  ["EditorGUILayout", "GUILayout", "EditorStyles", "serializedObject"]

/-! ## What the statements start on -/

namespace Field

theorem receivers_leadStatement {a : Annotation} {e : Expr} (lead : a.leadStatement? = some e) :
    ∀ name ∈ Expr.receivers [e], name ∈ receiverNames := by
  cases a with
  | header text =>
    cases lead
    exact (by decide : ∀ name ∈ ["EditorGUILayout", "EditorStyles"], name ∈ receiverNames)
  | space height =>
    cases lead
    exact (by decide : ∀ name ∈ ["GUILayout"], name ∈ receiverNames)
  | _ => cases lead

theorem receivers_drawStatement (f : Field) :
    Expr.receivers [f.drawStatement] = ["EditorGUILayout", "serializedObject"] := by
  unfold drawStatement
  split
  · split <;> rfl
  · rfl

theorem receivers_statements {f : Field} {e : Expr} (mem : e ∈ f.statements) :
    ∀ name ∈ Expr.receivers [e], name ∈ receiverNames := by
  rcases List.mem_append.mp mem with mem | mem
  · obtain ⟨a, _, lead⟩ := List.mem_filterMap.mp mem
    exact receivers_leadStatement lead
  · rw [List.mem_singleton.mp mem, receivers_drawStatement]
    decide

end Field

namespace Target

theorem receivers_editor (t : Target) :
    ∀ name ∈ Expr.receivers t.editor.statements, name ∈ receiverNames := by
  intro name start
  rw [statements_editor] at start
  obtain ⟨e, mem, start⟩ := Expr.mem_receivers.mp start
  have ends (method : String) :
      Expr.receivers [.call serializedObject method []] = ["serializedObject"] := rfl
  rcases mem_statements.mp mem with rfl | ⟨f, _, mem⟩ | rfl
  · rw [ends, List.mem_singleton] at start
    rw [start]
    decide
  · exact Field.receivers_statements mem name start
  · rw [ends, List.mem_singleton] at start
    rw [start]
    decide

theorem borrowed_editor (t : Target) : t.editor.borrowed =
    "CustomEditor" :: Expr.receivers t.editor.statements := rfl

/-- All that an editor borrows is its attribute and the names its chains start on. -/
theorem mem_borrowed_editor {t : Target} {name : String} (mem : name ∈ t.editor.borrowed) :
    name ∈ "CustomEditor" :: receiverNames := by
  rw [borrowed_editor] at mem
  rcases List.mem_cons.mp mem with rfl | mem
  · exact List.mem_cons_self
  · exact List.mem_cons_of_mem _ (t.receivers_editor name mem)

/-! ## What the declarations are called -/

theorem labelField_not_borrowed (t : Target) (name : String) :
    Naming.labelField name ∉ t.editor.borrowed := by
  have apart : ∀ name ∈ "CustomEditor" :: receiverNames, ¬"Content".toList <:+ name.toList := by
    decide
  exact fun mem => apart _ (mem_borrowed_editor mem) (Naming.suffix_labelField name)

theorem editorClass_not_receiver (name : String) : Naming.editorClass name ∉ receiverNames := by
  have apart : ∀ name ∈ receiverNames, ¬"Editor".toList <:+ name.toList := by
    decide
  exact fun mem => apart _ mem (Naming.suffix_editorClass name)

/-- The class is called like the attribute in one case. -/
theorem editorClass_borrowed_iff (t : Target) :
    Naming.editorClass t.name ∈ t.editor.borrowed ↔ t.name = "Custom" := by
  have custom : Naming.editorClass "Custom" = "CustomEditor" := rfl
  have foreign : Naming.editorClass t.name ∉ Expr.receivers t.editor.statements :=
    fun mem => editorClass_not_receiver t.name (t.receivers_editor _ mem)
  rw [borrowed_editor, List.mem_cons, or_iff_left foreign, ← custom]
  exact Naming.editorClass_injective.eq_iff

/-! ## The law -/

variable {t : Target}

/-- In the editor of an accepted target no label is called like an attribute or like what
a chain starts on, and its class is only if the target is called `Custom`: then it is
called like its attribute. -/
theorem captures_iff (accepted : (Generation.build (some t) .initial).answer = .ok ()) :
    ∃ u, (Generation.build (some t) .initial).request.held = some u ∧
      (∀ name ∈ u.borrowed, name ∈ ["CustomEditor", "EditorGUILayout", "GUILayout",
        "EditorStyles", "serializedObject"]) ∧
      (∀ label ∈ u.fields, label.name ∉ u.borrowed) ∧
      (u.cls.name ∈ u.borrowed ↔ t.name = "Custom") ∧
      (u.cls.name ∈ u.borrowed → u.cls.name ∈ u.cls.attributes.map (·.name)) := by
  have accept := (acceptable_of_build accepted).accept
  rw [Generation.build_of_accept rfl accept]
  refine ⟨t.editor, rfl, fun name => mem_borrowed_editor, ?_, t.editorClass_borrowed_iff, ?_⟩
  · intro label mem
    rw [fields_editor] at mem
    obtain ⟨f, _, rfl⟩ := List.mem_map.mp mem
    exact t.labelField_not_borrowed f.name
  · intro mem
    rcases List.mem_append.mp mem with mem | mem
    · exact mem
    · exact (editorClass_not_receiver t.name (t.receivers_editor _ mem)).elim

/-- A target with names that come close to those of the host. -/
def almost : Target where
  name := "Custom_"
  scope := some "GUILayout"
  lineage := ["MonoBehaviour"]
  fields := [⟨"GUI", "int", .isPublic, [.header "EditorStyles", .range (.ofInt 0) (.ofInt 1)]⟩]

theorem captures_iff_almost :
    (Generation.build (some almost) .initial).answer = .ok () ∧
    ∃ u, (Generation.build (some almost) .initial).request.held = some u ∧
      (∀ name ∈ u.borrowed, name ∈ ["CustomEditor", "EditorGUILayout", "GUILayout",
        "EditorStyles", "serializedObject"]) ∧
      (∀ label ∈ u.fields, label.name ∉ u.borrowed) ∧
      (u.cls.name ∈ u.borrowed ↔ almost.name = "Custom") ∧
      (u.cls.name ∈ u.borrowed → u.cls.name ∈ u.cls.attributes.map (·.name)) :=
  have accepted : (Generation.build (some almost) .initial).answer = .ok () := rfl
  ⟨accepted, captures_iff accepted⟩

/-- A target whose class is called like its attribute. -/
def custom : Target where
  name := "Custom"
  scope := none
  lineage := ["MonoBehaviour"]
  fields := []

/-- It is accepted, and its attribute is captured by its class. -/
theorem captured_attribute_custom :
    (Generation.build (some custom) .initial).answer = .ok () ∧
    ∃ u, (Generation.build (some custom) .initial).request.held = some u ∧
      u.cls.name ∈ u.borrowed :=
  ⟨rfl, custom.editor, rfl, by decide⟩

end Target

end Inspector
