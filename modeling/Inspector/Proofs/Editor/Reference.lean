import Inspector.Proofs.Editor.Assembly
import Inspector.Proofs.Generation.Steps
import Inspector.Proofs.Naming.Derived
import Inspector.Proofs.Target.Accepted

/-!
# The editor as a whole

The editor of a target written down at once, field for field, with nothing
collected on the way. Its parts follow the selected fields: a label for each,
and for each its headings and gaps and the one statement that draws it.

**The law** (`Target.built_reference`): a fresh request that accepts a target
keeps exactly this editor. Labels and drawing statements are aligned with the
selected fields (`Aligned`): the statement at each position fetches the field at
that position and passes the label at that position, and no statement in
between mentions a label.
-/

namespace Inspector

open CSharp

/-! ## The reference -/

namespace Reference

/-- The fields an editor is for: the public ones that are not kept from it, and
those marked. -/
def selected (t : Target) : List Field :=
  t.fields.filter fun f =>
    (f.visibility = .isPublic ∧ .nonSerializedMarker ∉ f.annotations) ∨
      .serializeMarker ∈ f.annotations

/-- The name of the label of a field. -/
def labelName (f : Field) : String :=
  f.name ++ "Content"

/-- The declaration of the label of a field. -/
def label (f : Field) : FieldDecl where
  access := .isPrivate
  type := "GUIContent"
  name := labelName f
  initial := some (.create "GUIContent"
    (.str (Naming.displayName f.name) :: ((f.annotations.findSome? (·.tooltip?)).map .str).toList))

/-- The statements that an annotation puts before its field. -/
def lead : Annotation → List Expr
  | .header text =>
    [.call (.ident "EditorGUILayout") "LabelField"
      [.str text, .member (.ident "EditorStyles") "boldLabel"]]
  | .space height => [.call (.ident "GUILayout") "Space" [.float height]]
  | _ => []

/-- The property that holds a field. -/
def property (f : Field) : Expr :=
  .call (.ident "serializedObject") "FindProperty" [.str f.name]

/-- The statement that draws a field: a slider for one with a range, over integers
if the type of the field is one of theirs. -/
def drawing (f : Field) : Expr :=
  match f.annotations.findSome? (·.limits?) with
  | some (min, max) =>
    if f.type ∈ integralTypes then
      .call (.ident "EditorGUILayout") "IntSlider"
        [property f, .int (integerLimit min), .int (integerLimit max), .ident (labelName f)]
    else
      .call (.ident "EditorGUILayout") "Slider"
        [property f, .float min, .float max, .ident (labelName f)]
  | none =>
    .call (.ident "EditorGUILayout") "PropertyField" [property f, .ident (labelName f)]

/-- The statements of the method that draws. -/
def body (fields : List Field) : List Expr :=
  .call (.ident "serializedObject") "Update" [] ::
    fields.flatMap (fun f => f.annotations.flatMap lead ++ [drawing f]) ++
    [.call (.ident "serializedObject") "ApplyModifiedProperties" []]

/-- The editor of a target. -/
def editor (t : Target) : CompilationUnit where
  scope := t.enclosing.map (· ++ ".Editor")
  imports := ["UnityEditor", "UnityEngine"]
  cls :=
    { access := .isPublic
      name := t.name ++ "Editor"
      base := "UnityEditor.Editor"
      attributes :=
        [⟨"CustomEditor", [.typeOf (t.enclosing.elim t.name fun scope => scope ++ "." ++ t.name)]⟩]
      members := (selected t).map (fun f => .field (label f)) ++
        [.method ⟨.isPublic, true, "void", "OnInspectorGUI", body (selected t)⟩] }

end Reference

/-! ## Fields against the reference -/

theorem Reference.lead_eq (a : Annotation) : lead a = a.leadStatement?.toList := by
  cases a <;> rfl

namespace Annotation

/-- Only ranges have limits. -/
theorem sameKind_of_limits? (a b : Annotation) (ha : a.limits?.isSome) (hb : b.limits?.isSome) :
    a.sameKind b := by
  cases a <;> cases ha
  cases b <;> cases hb
  rfl

/-- Only tooltips have a text to show. -/
theorem sameKind_of_tooltip? (a b : Annotation) (ha : a.tooltip?.isSome)
    (hb : b.tooltip?.isSome) : a.sameKind b := by
  cases a <;> cases ha
  cases b <;> cases hb
  rfl

end Annotation

namespace Field

theorem leadStatements_eq (f : Field) :
    f.leadStatements = f.annotations.flatMap Reference.lead := by
  rw [leadStatements]
  induction f.annotations with
  | nil => rfl
  | cons a rest ih =>
    rw [List.flatMap_cons, Reference.lead_eq, ← ih, List.filterMap_cons]
    cases a.leadStatement? <;> rfl

theorem limits?_eq {f : Field} (h : f.Valid) :
    f.limits? = f.annotations.findSome? (·.limits?) := by
  rw [limits?, filterMap_of_unrepeated Annotation.sameKind_of_limits? h.2]
  cases f.annotations.findSome? (·.limits?) <;> rfl

/-- All tooltips of a valid field: the one that decides, if there is one. -/
theorem filterMap_tooltip? {f : Field} (h : f.Valid) :
    f.annotations.filterMap (·.tooltip?) = (f.annotations.findSome? (·.tooltip?)).toList :=
  filterMap_of_unrepeated Annotation.sameKind_of_tooltip? h.2

theorem tooltip?_eq {f : Field} (h : f.Valid) :
    f.tooltip? = f.annotations.findSome? (·.tooltip?) := by
  rw [tooltip?, filterMap_tooltip? h]
  cases f.annotations.findSome? (·.tooltip?) <;> rfl

theorem labelMember_eq {f : Field} (h : f.Valid) : f.labelMember = Reference.label f := by
  rw [labelMember, tooltip?_eq h]
  rfl

theorem drawStatement_eq {f : Field} (h : f.Valid) : f.drawStatement = Reference.drawing f := by
  rw [drawStatement, Reference.drawing, limits?_eq h]
  cases f.annotations.findSome? (·.limits?) with
  | none => rfl
  | some limits =>
    simp only [isIntegral, List.contains_iff_mem]
    rfl

end Field

namespace Target

theorem serializedFields_eq (t : Target) : t.serializedFields = Reference.selected t := by
  refine List.filter_congr fun f _ => ?_
  rw [Bool.eq_iff_iff]
  simp [Field.isSerialized, Field.isPublic]

theorem Acceptable.valid_of_selected {t : Target} (h : t.Acceptable) :
    ∀ f ∈ Reference.selected t, f.Valid :=
  fun f mem => h.fields f (List.mem_filter.mp mem).1

theorem qualifiedName_eq (t : Target) :
    t.qualifiedName = t.enclosing.elim t.name fun scope => scope ++ "." ++ t.name := by
  rw [qualifiedName]
  cases t.enclosing <;> rfl

/-- The editor that is assembled for a target that may have one. -/
theorem Acceptable.editor_eq {t : Target} (h : t.Acceptable) : t.editor = Reference.editor t := by
  have labels : (Reference.selected t).map (fun f => Member.field f.labelMember) =
      (Reference.selected t).map fun f => Member.field (Reference.label f) :=
    List.map_congr_left fun f mem => by rw [Field.labelMember_eq (h.valid_of_selected f mem)]
  have statements : (Reference.selected t).flatMap (·.statements) =
      (Reference.selected t).flatMap fun f =>
        f.annotations.flatMap Reference.lead ++ [Reference.drawing f] := by
    rw [List.flatMap_def, List.flatMap_def]
    refine congrArg List.flatten (List.map_congr_left fun f mem => ?_)
    rw [Field.statements, Field.leadStatements_eq,
      Field.drawStatement_eq (h.valid_of_selected f mem)]
  rw [editor, editorClass, draft_eq, serializedFields_eq, labels, statements, qualifiedName_eq]
  rfl

end Target

/-! ## Alignment -/

namespace CSharp

mutual

/-- The identifiers in an expression, at any depth. -/
def Expr.idents : Expr → List String
  | .str _ => []
  | .int _ => []
  | .float _ => []
  | .ident name => [name]
  | .typeOf _ => []
  | .member target _ => target.idents
  | .call target _ args => target.idents ++ Expr.listIdents args
  | .create _ args => Expr.listIdents args

/-- The identifiers in some expressions. -/
def Expr.listIdents : List Expr → List String
  | [] => []
  | e :: rest => e.idents ++ Expr.listIdents rest

end

/-- Whether a statement draws a field. -/
def Expr.isDrawing : Expr → Bool
  | .call _ method _ => method ∈ ["PropertyField", "Slider", "IntSlider"]
  | _ => false

/-- The statements of a source file. -/
def CompilationUnit.statements (u : CompilationUnit) : List Expr :=
  u.methods.flatMap (·.body)

/-- The statements of a source file that draw fields. -/
def CompilationUnit.drawings (u : CompilationUnit) : List Expr :=
  u.statements.filter (·.isDrawing)

end CSharp

/-- Labels and drawing statements of a source file follow a list of fields. -/
structure Aligned (fields : List Field) (u : CompilationUnit) : Prop where
  /-- As many labels as fields. -/
  labels : u.fields.length = fields.length
  /-- As many drawing statements as fields. -/
  drawings : u.drawings.length = fields.length
  /-- The statement at a position fetches the field there and passes the label
  there, perhaps with literals between the two. -/
  passed : ∀ (k : Nat) (f : Field), fields[k]? = some f → ∃ label method limits,
    u.fields[k]? = some label ∧ Expr.listIdents limits = [] ∧
    u.drawings[k]? = some (.call (.ident "EditorGUILayout") method
      (.call (.ident "serializedObject") "FindProperty" [.str f.name] ::
        limits ++ [.ident label.name]))
  /-- The other statements mention no label. -/
  silent : ∀ e ∈ u.statements, ¬e.isDrawing → ∀ label ∈ u.fields, label.name ∉ e.idents

namespace Reference

theorem lead_not_drawing {a : Annotation} {e : Expr} (h : e ∈ lead a) : ¬e.isDrawing := by
  cases a with
  | header text =>
    rw [List.mem_singleton.mp h]
    simp [Expr.isDrawing]
  | space height =>
    rw [List.mem_singleton.mp h]
    simp [Expr.isDrawing]
  | _ => cases h

/-- The names of the host in statements that draw no field. -/
def hostNames : List String :=
  ["serializedObject", "EditorGUILayout", "EditorStyles", "GUILayout"]

theorem lead_idents {a : Annotation} {e : Expr} (h : e ∈ lead a) :
    ∀ name ∈ e.idents, name ∈ hostNames := by
  cases a with
  | header text =>
    rw [List.mem_singleton.mp h]
    simp [Expr.idents, Expr.listIdents, hostNames]
  | space height =>
    rw [List.mem_singleton.mp h]
    simp [Expr.idents, Expr.listIdents, hostNames]
  | _ => cases h

/-- No label has a name of the host. -/
theorem labelName_not_mem (f : Field) : labelName f ∉ hostNames := by
  have suffix : "Content".toList <:+ (labelName f).toList := Naming.suffix_labelField f.name
  have apart : ∀ name ∈ hostNames, ¬"Content".toList <:+ name.toList := by
    decide
  exact fun mem => apart _ mem suffix

theorem drawing_eq (f : Field) : ∃ method limits,
    method ∈ ["PropertyField", "Slider", "IntSlider"] ∧ Expr.listIdents limits = [] ∧
    drawing f = .call (.ident "EditorGUILayout") method
      (property f :: limits ++ [.ident (labelName f)]) := by
  rw [drawing]
  split
  next min max _ =>
    split
    · exact ⟨"IntSlider", [.int (integerLimit min), .int (integerLimit max)], by decide, rfl, rfl⟩
    · exact ⟨"Slider", [.float min, .float max], by decide, rfl, rfl⟩
  · exact ⟨"PropertyField", [], by decide, rfl, rfl⟩

theorem isDrawing_drawing (f : Field) : (drawing f).isDrawing := by
  obtain ⟨method, limits, mem, _, shape⟩ := drawing_eq f
  rw [shape]
  exact decide_eq_true mem

theorem fields_editor (t : Target) : (editor t).fields = (selected t).map label :=
  CompilationUnit.fields_of_members rfl

theorem statements_editor (t : Target) : (editor t).statements = body (selected t) := by
  rw [CompilationUnit.statements, CompilationUnit.methods_of_members rfl, List.flatMap_singleton]

/-- The drawing statements of the body, one for each field. -/
theorem filter_body (fields : List Field) :
    (body fields).filter (·.isDrawing) = fields.map drawing := by
  have each (f : Field) :
      (f.annotations.flatMap lead ++ [drawing f]).filter (·.isDrawing) = [drawing f] := by
    have none : (f.annotations.flatMap lead).filter (·.isDrawing) = [] := by
      rw [List.filter_eq_nil_iff]
      intro e mem
      obtain ⟨a, _, mem⟩ := List.mem_flatMap.mp mem
      exact lead_not_drawing mem
    rw [List.filter_append, none, List.filter_cons_of_pos (isDrawing_drawing f)]
    rfl
  have ends (method : String) (h : method ∉ ["PropertyField", "Slider", "IntSlider"]) :
      ([.call (.ident "serializedObject") method []] : List Expr).filter (·.isDrawing) = [] := by
    refine List.filter_cons_of_neg fun drawing => ?_
    exact h (of_decide_eq_true drawing)
  rw [body, List.cons_append, ← List.singleton_append, List.filter_append, List.filter_append,
    ends _ (by decide), ends _ (by decide), List.filter_flatMap, List.map_eq_flatMap]
  simp only [each, List.nil_append, List.append_nil]

theorem aligned (t : Target) : Aligned (selected t) (editor t) where
  labels := by rw [fields_editor, List.length_map]
  drawings := by
    rw [CompilationUnit.drawings, statements_editor, filter_body, List.length_map]
  passed := by
    intro k f here
    obtain ⟨method, limits, _, silent, shape⟩ := drawing_eq f
    refine ⟨label f, method, limits, ?_, silent, ?_⟩
    · rw [fields_editor, List.getElem?_map, here]
      rfl
    · rw [CompilationUnit.drawings, statements_editor, filter_body, List.getElem?_map, here]
      exact congrArg some shape
  silent := by
    intro e mem other name labeled
    rw [fields_editor] at labeled
    obtain ⟨f, _, rfl⟩ := List.mem_map.mp labeled
    rw [statements_editor] at mem
    have host : ∀ name ∈ e.idents, name ∈ hostNames := by
      simp only [body, List.cons_append, List.mem_cons, List.mem_append, List.mem_flatMap,
        List.not_mem_nil, or_false] at mem
      rcases mem with rfl | ⟨g, _, ⟨a, _, mem⟩ | rfl⟩ | rfl
      · simp [Expr.idents, Expr.listIdents, hostNames]
      · exact lead_idents mem
      · exact (other (isDrawing_drawing g)).elim
      · simp [Expr.idents, Expr.listIdents, hostNames]
    exact fun mem => labelName_not_mem f (host _ mem)

end Reference

/-! ## The law -/

/-- A fresh request that accepts a target keeps the reference editor of it, whose
labels and drawing statements follow the selected fields. -/
theorem Target.built_reference {t : Target}
    (accepted : (Generation.build (some t) .initial).answer = .ok ()) :
    (Generation.build (some t) .initial).request.held = some (Reference.editor t) ∧
      Aligned (Reference.selected t) (Reference.editor t) := by
  obtain ⟨own, accept⟩ := Generation.build_initial_ok_iff.mp accepted
  obtain ⟨same, acceptable⟩ := Target.accept_eq_ok_iff.mp accept
  cases same
  rw [Generation.build_of_accept rfl accept, ← acceptable.editor_eq]
  refine ⟨rfl, ?_⟩
  rw [acceptable.editor_eq]
  exact Reference.aligned t

/-- A target with a slider, a field that is kept from the editor and one that is
marked for it. -/
def Target.actor : Target where
  name := "Actor"
  scope := some "Game"
  lineage := ["MonoBehaviour"]
  fields :=
    [⟨"speed", "int", .isPublic,
      [.header "Motion", .range (.ofInt 0) (.ofInt 10), .space (.ofInt 8), .tooltip "Pace"]⟩,
    ⟨"cache", "float", .isPublic, [.nonSerializedMarker]⟩,
    ⟨"m_name", "string", .nonPublic, [.serializeMarker, .deferred .multiline]⟩]

theorem Target.built_reference_actor :
    (Generation.build (some Target.actor) .initial).answer = .ok () ∧
    (Generation.build (some Target.actor) .initial).request.held =
      some (Reference.editor Target.actor) ∧
      Aligned (Reference.selected Target.actor) (Reference.editor Target.actor) :=
  have accepted : (Generation.build (some Target.actor) .initial).answer = .ok () := rfl
  ⟨accepted, Target.built_reference accepted⟩

end Inspector
