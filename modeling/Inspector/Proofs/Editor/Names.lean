import Inspector.Proofs.CSharp.Filled
import Inspector.Proofs.CSharp.Sound
import Inspector.Proofs.Editor.Assembly
import Inspector.Proofs.Generation.Verdict

/-!
# The names in an editor

An editor is assembled from texts of its target, and a target holds texts of any
content. Those that are quoted may stay as they are. The others become names:
the name of the target and of its namespace, and the names of the fields, alone
or with a word behind them. What the target was judged by makes each of them a
name of the right form.

The texts that are not of the target are words of the host (`hostWords`). None of
them can be a reserved word, for a capital is in each.

**The law** (`Target.built_named`): in the editor of an accepted target every
name has the form of its place, and the only reserved word among them is the one
for no result. So no required name is missing, and rendering a built request has
an answer for every destination.
-/

namespace Inspector

open CSharp

/-! ## Derived names -/

theorem Naming.isIdentifier_editorClass {name : String} (h : isIdentifier name) :
    isIdentifier (editorClass name) :=
  isIdentifier_append h (List.all_eq_true.mp (by decide)) ⟨'E', by decide, by decide⟩

theorem Naming.isIdentifier_labelField {name : String} (h : isIdentifier name) :
    isIdentifier (labelField name) :=
  isIdentifier_append h (List.all_eq_true.mp (by decide)) ⟨'C', by decide, by decide⟩

/-- The words of the host in an editor. -/
def hostWords : List String :=
  ["EditorGUILayout", "LabelField", "EditorStyles", "boldLabel", "GUILayout", "Space",
   "serializedObject", "FindProperty", "IntSlider", "Slider", "PropertyField", "GUIContent",
   "Update", "ApplyModifiedProperties", "OnInspectorGUI", "CustomEditor", "UnityEditor",
   "UnityEngine", "Editor"]

/-- Each of them has a capital. -/
theorem isIdentifier_of_hostWord {word : String} (h : word ∈ hostWords) : isIdentifier word := by
  have all : ∀ word ∈ hostWords,
      hasIdentifierShape word.toList ∧ word.toList.any (!·.isLower) := by decide +kernel
  obtain ⟨shape, foreign⟩ := all word h
  exact isIdentifier_of_shape shape (by simpa using foreign)

theorem sound_hostIdent {word : String} (host : word ∈ hostWords) : (Expr.ident word).Sound :=
  Expr.sound_ident (isIdentifier_of_hostWord host)

theorem sound_hostCall {target : Expr} {method : String} {args : List Expr}
    (host : method ∈ hostWords) (sound : target.Sound) (all : ∀ e ∈ args, e.Sound) :
    (Expr.call target method args).Sound :=
  Expr.sound_call (isIdentifier_of_hostWord host) sound all

/-! ## Fields -/

namespace Field

variable {f : Field}

theorem sound_labelMember (h : isIdentifier f.name) : (Member.field f.labelMember).Sound := by
  have content : isIdentifier "GUIContent" := isIdentifier_of_hostWord (by decide)
  unfold labelMember
  apply Member.sound_field content (Naming.isIdentifier_labelField h)
  intro e initial
  cases initial
  apply Expr.sound_create content
  intro e mem
  rcases List.mem_cons.mp mem with rfl | mem
  · exact Expr.sound_str _
  · obtain ⟨text, _, rfl⟩ := Option.map_eq_some_iff.mp (Option.mem_toList.mp mem)
    exact Expr.sound_str _

theorem sound_editorLayout : editorLayout.Sound := sound_hostIdent (by decide)

theorem sound_serializedObject : serializedObject.Sound := sound_hostIdent (by decide)

theorem sound_leadStatement {a : Annotation} {e : Expr} (lead : a.leadStatement? = some e) :
    e.Sound := by
  cases a with
  | header text =>
    cases lead
    apply sound_hostCall (by decide) sound_editorLayout
    have style : (Expr.member (.ident "EditorStyles") "boldLabel").Sound :=
      Expr.sound_member (isIdentifier_of_hostWord (by decide)) (sound_hostIdent (by decide))
    simp [Expr.sound_str, style]
  | space height =>
    cases lead
    apply sound_hostCall (by decide)
    · exact sound_hostIdent (by decide)
    · simp [Expr.sound_float]
  | _ => cases lead

theorem sound_property (f : Field) : f.property.Sound := by
  apply sound_hostCall (by decide) sound_serializedObject
  simp [Expr.sound_str]

theorem sound_drawStatement (h : isIdentifier f.name) : f.drawStatement.Sound := by
  have label : (Expr.ident f.labelName).Sound := Expr.sound_ident (Naming.isIdentifier_labelField h)
  have property := f.sound_property
  unfold drawStatement
  split
  · split
    · apply sound_hostCall (by decide) sound_editorLayout
      simp [property, label, Expr.sound_int]
    · apply sound_hostCall (by decide) sound_editorLayout
      simp [property, label, Expr.sound_float]
  · apply sound_hostCall (by decide) sound_editorLayout
    simp [property, label]

theorem sound_statements (h : isIdentifier f.name) : ∀ e ∈ f.statements, e.Sound := by
  intro e mem
  rcases List.mem_append.mp mem with mem | mem
  · obtain ⟨a, _, lead⟩ := List.mem_filterMap.mp mem
    exact sound_leadStatement lead
  · rw [List.mem_singleton.mp mem]
    exact sound_drawStatement h

end Field

/-! ## Editors -/

namespace Target

variable {t : Target}

theorem Acceptable.isIdentifier_of_mem (h : t.Acceptable) {f : Field}
    (mem : f ∈ t.serializedFields) : isIdentifier f.name :=
  (h.fields f (List.mem_filter.mp mem).1).1

theorem Acceptable.sound_method (h : t.Acceptable) : (Member.method t.draft.method).Sound := by
  unfold Draft.method
  apply Member.sound_method (isIdentifier_of_hostWord (by decide))
  intro e mem
  have ends (method : String) (host : method ∈ hostWords) :
      (Expr.call serializedObject method []).Sound :=
    sound_hostCall host Field.sound_serializedObject (by simp)
  simp only [draft_eq, List.cons_append, List.mem_cons, List.mem_append,
    List.mem_flatMap, List.not_mem_nil, or_false] at mem
  -- fetching the values, the statements of one of the fields, or storing the values
  rcases mem with rfl | ⟨f, mem, statement⟩ | rfl
  · exact ends _ (by decide)
  · exact Field.sound_statements (h.isIdentifier_of_mem mem) e statement
  · exact ends _ (by decide)

theorem Acceptable.isDottedName_qualifiedName (h : t.Acceptable) :
    isDottedName t.qualifiedName := by
  unfold qualifiedName
  cases counts : t.enclosing with
  | none => exact isDottedName_of_isIdentifier h.name
  | some scope => exact isDottedName_append (h.scope scope counts) h.name

theorem Acceptable.sound_editorClass (h : t.Acceptable) :
    Sound t.editorClass.slots t.editorClass.names := by
  have editor : isIdentifier "Editor" := isIdentifier_of_hostWord (by decide)
  have scope : isDottedName "UnityEditor" :=
    isDottedName_of_isIdentifier (isIdentifier_of_hostWord (by decide))
  have operand : ∀ e ∈ [Expr.typeOf t.qualifiedName], e.Sound := by
    simpa using Expr.sound_typeOf h.isDottedName_qualifiedName
  unfold editorClass
  apply ClassDecl.sound (Naming.isIdentifier_editorClass h.name) (isDottedName_append scope editor)
  · intro a mem
    rw [List.mem_singleton.mp mem]
    exact Attribute.sound (isIdentifier_of_hostWord (by decide)) operand
  · intro m mem
    change m ∈ t.editor.cls.members at mem
    rw [members_editor] at mem
    rcases List.mem_append.mp mem with mem | mem
    · obtain ⟨f, selected, rfl⟩ := List.mem_map.mp mem
      exact Field.sound_labelMember (h.isIdentifier_of_mem selected)
    · rw [List.mem_singleton.mp mem]
      exact h.sound_method

theorem Acceptable.wellNamed_editor (h : t.Acceptable) : WellNamed t.editor.slots := by
  have imports : ∀ name ∈ firstOccurrences editorImports, isDottedName name := by
    intro name mem
    have host : name ∈ hostWords := by
      revert name
      decide
    exact isDottedName_of_isIdentifier (isIdentifier_of_hostWord host)
  have editor : isIdentifier "Editor" := isIdentifier_of_hostWord (by decide)
  rw [CompilationUnit.wellNamed_iff]
  refine ⟨?_, imports, h.sound_editorClass.1⟩
  intro name given
  obtain ⟨scope, counts, rfl⟩ := Option.map_eq_some_iff.mp given
  have ending : ".Editor" = "." ++ "Editor" := by decide
  rw [ending, ← String.append_assoc]
  exact isDottedName_append (h.scope scope counts) editor

/-- The editor that a request keeps of an accepted target is rendered wherever it
should go. -/
theorem Acceptable.render_built (h : t.Acceptable) (destination : Destination) :
    (Generation.render destination (.built t)).answer =
      .ok ((destination.path? (Naming.sourceFile t.name)).map
        ((Generation.built t).source t.editor.text)) := by
  have rendered := CompilationUnit.render_of_wellNamed h.wellNamed_editor
  cases given : destination.path? (Naming.sourceFile t.name) with
  | some path =>
    rw [Generation.render_of_path (g := .built t) rfl rfl rendered given]
    rfl
  | none =>
    rw [Generation.render_of_dismissed (g := .built t) rfl rfl given]
    rfl

/-- So is the editor of an accepted target, from the beginning. -/
theorem Acceptable.answer_generateEditor (h : t.Acceptable) (destination : Destination) :
    (generateEditor (some t) destination).answer =
      .ok ((destination.path? (Naming.sourceFile t.name)).map
        ((Generation.built t).source t.editor.text)) := by
  rw [generateEditor_of_accept h.accept]
  exact h.render_built destination

/-- The names in an editor of a target are in order. -/
structure NamesInOrder (t : Target) (u : CompilationUnit) : Prop where
  /-- Every name has the form of its place. -/
  formed : WellNamed u.slots
  /-- Every required name is what its role asks for. -/
  fitting : ∀ name ∈ u.cls.names, name.1.admits name.2
  /-- The only reserved word is the one for no result. -/
  reserved : ∀ slot ∈ u.slots, slot.2 ∈ keywords → slot = (.result, "void")
  /-- The class is an identifier with a word behind the name of the target. -/
  cls : u.cls.name = Naming.editorClass t.name ∧ isIdentifier u.cls.name
  /-- So is each label behind the name of its field. -/
  labels : u.fields.map (·.name) = t.serializedFields.map (·.labelName) ∧
    ∀ label ∈ u.fields, isIdentifier label.name
  /-- No required name is missing. -/
  whole : u.missingName? = none

theorem Acceptable.namesInOrder (h : t.Acceptable) : t.NamesInOrder t.editor where
  formed := h.wellNamed_editor
  fitting := h.sound_editorClass.2
  reserved := h.wellNamed_editor.eq_void_of_keyword
  cls := ⟨rfl, Naming.isIdentifier_editorClass h.name⟩
  labels := by
    rw [fields_editor]
    refine ⟨by simp [Field.labelMember], ?_⟩
    intro label mem
    obtain ⟨f, selected, rfl⟩ := List.mem_map.mp mem
    exact Naming.isIdentifier_labelField (h.isIdentifier_of_mem selected)
  whole := CompilationUnit.missingName?_eq_none_iff.mpr
    (ClassDecl.filled (CompilationUnit.wellNamed_iff.mp h.wellNamed_editor).2.2)

/-- The editor that is kept for an accepted target has its names in order, and is
rendered wherever it should go. -/
theorem built_named (accepted : (Generation.build (some t) .initial).answer = .ok ()) :
    ∃ u, (Generation.build (some t) .initial).request.held = some u ∧ t.NamesInOrder u ∧
      ∀ destination, ∃ source, (Generation.render destination
        (Generation.build (some t) .initial).request).answer = .ok source := by
  have h := acceptable_of_build accepted
  rw [Generation.build_of_accept rfl h.accept]
  refine ⟨t.editor, rfl, h.namesInOrder, ?_⟩
  intro destination
  exact ⟨_, h.render_built destination⟩

/-- A target with letters from beyond the basic alphabet in its names, and with
texts that could not be names where none has to be one. -/
def beacon : Target where
  name := "Größe_2"
  scope := some "Spiel.Ωmega"
  lineage := ["Lamp", "ScriptableObject"]
  fields :=
    [⟨"_2x", "List<int[]> ?", .isPublic, [.header "a\n\"b", .unrecognized "class;"]⟩,
    ⟨"übung", "", .nonPublic, [.serializeMarker, .tooltip "", .range .nan (.ofInt 3)]⟩]

theorem built_named_beacon :
    (Generation.build (some beacon) .initial).answer = .ok () ∧
    ∃ u, (Generation.build (some beacon) .initial).request.held = some u ∧ beacon.NamesInOrder u ∧
      ∀ destination, ∃ source, (Generation.render destination
        (Generation.build (some beacon) .initial).request).answer = .ok source :=
  have accepted : (Generation.build (some beacon) .initial).answer = .ok () := rfl
  ⟨accepted, built_named accepted⟩

end Target

end Inspector
