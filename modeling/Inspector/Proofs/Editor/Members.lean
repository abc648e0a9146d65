import Inspector.Proofs.Editor.Assembly
import Inspector.Proofs.Generation.Verdict
import Inspector.Proofs.Naming.Derived
import Mathlib.Data.List.Count
import Mathlib.Data.List.Nodup

/-!
# The members of an editor

The class of an editor declares a label for each serialized field, and the method
that draws. A label has the name of its field with a word behind it, which keeps
labels of different fields apart, and apart from the method.

Nothing keeps two fields of a target from having the same name, so a label may
be declared twice (`repeated_member_twins`).

**The law** (`Target.memberNames_nodup_iff`): that is the only way. The members
of the class of an accepted target are told apart by their names exactly if its
serialized fields are.
-/

namespace Inspector

open CSharp

/-! ## Names of members -/

namespace CSharp

/-- The name that a member declares. -/
def Member.name : Member → String
  | .field f => f.name
  | .method m => m.name

/-- The names that the class of a source file declares, in member order. -/
def CompilationUnit.memberNames (u : CompilationUnit) : List String :=
  u.cls.members.map (·.name)

end CSharp

/-- The method that draws does not end in the word of the labels. -/
theorem Naming.labelField_ne_method (name : String) : labelField name ≠ "OnInspectorGUI" := by
  intro same
  have ending := suffix_labelField name
  rw [same] at ending
  exact absurd ending (by decide)

theorem Naming.method_not_mem_labels (names : List String) :
    "OnInspectorGUI" ∉ names.map labelField := by
  intro mem
  obtain ⟨name, _, same⟩ := List.mem_map.mp mem
  exact labelField_ne_method name same

namespace Target

variable {t : Target}

theorem memberNames_editor (t : Target) : t.editor.memberNames =
    (t.serializedFields.map (·.name)).map Naming.labelField ++ ["OnInspectorGUI"] := by
  rw [CompilationUnit.memberNames, members_editor, List.map_append, List.map_map, List.map_map]
  rfl

theorem nodup_memberNames_editor_iff (t : Target) :
    t.editor.memberNames.Nodup ↔ (t.serializedFields.map (·.name)).Nodup := by
  rw [memberNames_editor, ← List.concat_eq_append, List.nodup_concat,
    List.nodup_map_iff Naming.labelField_injective]
  exact and_iff_right (Naming.method_not_mem_labels _)

theorem count_label_editor (t : Target) (name : String) :
    t.editor.memberNames.count (Naming.labelField name) =
      (t.serializedFields.map (·.name)).count name := by
  have apart : "OnInspectorGUI" ≠ Naming.labelField name := (Naming.labelField_ne_method name).symm
  rw [memberNames_editor, List.count_append, List.count_map_of_injective _ _
    Naming.labelField_injective, List.count_singleton]
  simp [apart]

theorem count_method_editor (t : Target) : t.editor.memberNames.count "OnInspectorGUI" = 1 := by
  rw [memberNames_editor, List.count_append,
    List.count_eq_zero_of_not_mem (Naming.method_not_mem_labels _)]
  rfl

/-! ## The law -/

/-- The class of an accepted target declares no member twice, exactly if no two of
its serialized fields have the same name. A label is declared as often as such a
field has its name, and the method that draws once. -/
theorem memberNames_nodup_iff (accepted : (Generation.build (some t) .initial).answer = .ok ()) :
    ∃ u, (Generation.build (some t) .initial).request.held = some u ∧
      (u.memberNames.Nodup ↔ (t.serializedFields.map (·.name)).Nodup) ∧
      (∀ name, u.memberNames.count (Naming.labelField name) =
        (t.serializedFields.map (·.name)).count name) ∧
      u.memberNames.count "OnInspectorGUI" = 1 := by
  have accept := (acceptable_of_build accepted).accept
  rw [Generation.build_of_accept rfl accept]
  exact ⟨t.editor, rfl, nodup_memberNames_editor_iff t, count_label_editor t, count_method_editor t⟩

/-- A target with two fields of one name, one of which is not serialized. -/
def overshadowed : Target where
  name := "Cart"
  scope := some "Game"
  lineage := ["MonoBehaviour"]
  fields := [⟨"speed", "int", .isPublic, []⟩, ⟨"speed", "float", .nonPublic, []⟩]

theorem memberNames_nodup_iff_overshadowed :
    (Generation.build (some overshadowed) .initial).answer = .ok () ∧
    ∃ u, (Generation.build (some overshadowed) .initial).request.held = some u ∧
      (u.memberNames.Nodup ↔ (overshadowed.serializedFields.map (·.name)).Nodup) ∧
      (∀ name, u.memberNames.count (Naming.labelField name) =
        (overshadowed.serializedFields.map (·.name)).count name) ∧
      u.memberNames.count "OnInspectorGUI" = 1 :=
  have accepted : (Generation.build (some overshadowed) .initial).answer = .ok () := rfl
  ⟨accepted, memberNames_nodup_iff accepted⟩

/-- A target with two serialized fields of one name. -/
def twins : Target where
  name := "Cart"
  scope := some "Game"
  lineage := ["MonoBehaviour"]
  fields := [⟨"speed", "int", .isPublic, []⟩, ⟨"speed", "float", .isPublic, []⟩]

/-- It is accepted, and its class declares one label twice. -/
theorem repeated_member_twins :
    (Generation.build (some twins) .initial).answer = .ok () ∧
    ∃ u, (Generation.build (some twins) .initial).request.held = some u ∧ ¬u.memberNames.Nodup := by
  refine ⟨rfl, _, rfl, ?_⟩
  have names : twins.editor.memberNames = ["speedContent", "speedContent", "OnInspectorGUI"] := by
    rw [memberNames_editor]
    decide
  change ¬twins.editor.memberNames.Nodup
  rw [names]
  decide

end Target

end Inspector
