import Inspector.Proofs.CSharp.Quotation
import Inspector.Proofs.Editor.LineEnds

/-!
# Texts are no code

The texts of headings and tooltips may hold quotes, backslashes and whatever looks like
the end of a statement. Of a target without its texts (`Target.untold`) all that is
left is what its editor does.

**The law** (`Target.rendered_quoted`): a string literal is read back as its value,
whatever follows it. So cutting the rendered editor of an accepted target at its string
literals gives the code of the target without its texts, and every text in full as the
value of a literal. No text ends its literal early, and none becomes code.
-/

namespace Inspector

open CSharp

/-! ## Targets without their texts -/

/-- The annotation with an empty text in place of its own. -/
def Annotation.untold : Annotation → Annotation
  | header _ => header ""
  | tooltip _ => tooltip ""
  | other => other

/-- The field with annotations that show nothing. -/
def Field.untold (f : Field) : Field :=
  { f with annotations := f.annotations.map (·.untold) }

/-- The target with annotations that show nothing. -/
def Target.untold (t : Target) : Target :=
  { t with fields := t.fields.map (·.untold) }

/-- Only annotations that show something are changed. -/
theorem Annotation.untold_eq_iff {a b : Annotation} (silent : a.shownText? = none) :
    b.untold = a ↔ b = a := by
  cases b with
  | header | tooltip => constructor <;> rintro rfl <;> cases silent
  | _ => exact Iff.rfl

namespace Field

theorem contains_untold {a : Annotation} (silent : a.shownText? = none) (f : Field) :
    f.untold.annotations.contains a = f.annotations.contains a := by
  rw [Bool.eq_iff_iff, List.contains_iff_mem, List.contains_iff_mem, untold, List.mem_map]
  simp only [ Annotation.untold_eq_iff silent, exists_eq_right]

theorem isSerialized_untold (f : Field) : f.untold.isSerialized = f.isSerialized := by
  rw [isSerialized, contains_untold rfl, contains_untold rfl]
  rfl

/-- What annotations mean without their texts is read off them. -/
theorem filterMap_untold {β : Type} {meaning hollow : Annotation → Option β}
    (same : ∀ a, meaning a.untold = hollow a) (f : Field) :
    f.untold.annotations.filterMap meaning = f.annotations.filterMap hollow := by
  have each : meaning ∘ Annotation.untold = hollow := funext same
  rw [untold, List.filterMap_map]
  exact congrArg (List.filterMap · f.annotations) each

theorem limits?_untold (f : Field) : f.untold.limits? = f.limits? := by
  have same (a : Annotation) : a.untold.limits? = a.limits? := by cases a <;> rfl
  exact congrArg List.getLast? (filterMap_untold same f)

theorem tooltip?_untold (f : Field) : f.untold.tooltip? = f.tooltip?.map fun _ => "" := by
  have same (a : Annotation) : a.untold.tooltip? = a.tooltip?.map fun _ => "" := by
    cases a <;> rfl
  rw [tooltip?, filterMap_untold same, tooltip?, ← List.getLast?_map, List.map_filterMap]

/-- A label keeps the place of its tooltip. -/
theorem hollow_labelMember_untold (f : Field) :
    f.untold.labelMember.hollow = f.labelMember.hollow := by
  unfold labelMember
  rw [tooltip?_untold]
  cases f.tooltip? <;> rfl

/-- The statements of a field keep the places of its headings. -/
theorem hollow_statements_untold (f : Field) :
    f.untold.statements.map (·.hollow) = f.statements.map (·.hollow) := by
  have lead : f.untold.leadStatements.map (·.hollow) = f.leadStatements.map (·.hollow) := by
    have same (a : Annotation) :
        a.untold.leadStatement?.map (·.hollow) = a.leadStatement?.map (·.hollow) := by
      cases a <;> rfl
    rw [leadStatements, leadStatements, List.map_filterMap, List.map_filterMap]
    exact filterMap_untold same f
  have draw : f.untold.drawStatement = f.drawStatement := by
    unfold drawStatement
    rw [limits?_untold]
    rfl
  rw [statements, statements, List.map_append, List.map_append, lead, draw]

end Field

namespace Target

theorem serializedFields_untold (t : Target) :
    t.untold.serializedFields = t.serializedFields.map (·.untold) := by
  rw [serializedFields, serializedFields, untold, List.filter_map]
  simp only [Function.comp_def, Field.isSerialized_untold]

/-- Without its texts, a target has the same code. -/
theorem hollow_editor_untold (t : Target) : t.untold.editor.hollow = t.editor.hollow := by
  have labels : (t.untold.draft.labels).map (·.hollow) = t.draft.labels.map (·.hollow) := by
    rw [draft_eq, draft_eq, serializedFields_untold]
    simp [Member.hollow, Field.hollow_labelMember_untold]
  have statements :
      (t.untold.draft.statements).map (·.hollow) = t.draft.statements.map (·.hollow) := by
    rw [draft_eq, draft_eq, serializedFields_untold]
    simp [List.map_flatMap, List.flatMap_map, Field.hollow_statements_untold]
  have method : t.untold.draft.method.hollow = t.draft.method.hollow := by
    unfold Draft.method MethodDecl.hollow
    simp only [List.map_append, statements]
  have members : t.untold.draft.members.map (·.hollow) = t.draft.members.map (·.hollow) := by
    rw [Draft.members, Draft.members, List.map_append, List.map_append, labels]
    exact congrArg (fun m => t.draft.labels.map (·.hollow) ++ [.method m]) method
  have cls : t.untold.editorClass.hollow = t.editorClass.hollow := by
    unfold ClassDecl.hollow editorClass
    rw [members]
    rfl
  exact congrArg (CompilationUnit.mk _ _) cls

/-- A string literal is read back as its value, whatever follows it. In the rendered
editor of an accepted target every literal is read as the string it was written for, the
texts that annotations show among them, and what is left is the code of the target
without these texts. -/
theorem rendered_quoted :
    (∀ value rest, readLiteral? (stringLiteral value ++ rest) = some (value, rest)) ∧
    ∀ t : Target, (Generation.build (some t) .initial).answer = .ok () →
      ∃ u text, (Generation.build (some t) .initial).request.held = some u ∧
        u.render = .ok text ∧
        cutLiterals? text.toList = some (t.untold.editor.hollow.text.toList, u.contents) ∧
        ∀ shown ∈ t.shownTexts, shown ∈ u.contents := by
  refine ⟨readLiteral?_stringLiteral, fun t accepted => ?_⟩
  have acceptable := acceptable_of_build accepted
  have named := acceptable.wellNamed_editor
  have free : Free '"' t.editor.slots :=
    fun slot mem => NameForm.not_mem_of_admits (named slot mem) (by decide)
  rw [Generation.build_of_accept rfl acceptable.accept]
  refine ⟨t.editor, t.editor.text, rfl, CompilationUnit.render_of_wellNamed named, ?_, ?_⟩
  · rw [hollow_editor_untold]
    exact CompilationUnit.cutLiterals?_text free
  · exact fun text shown => acceptable.mem_contents_of_shown shown

/-- A target with texts that look like the end of a literal and more code. -/
def lure : Target where
  name := "Lure"
  scope := none
  lineage := ["MonoBehaviour"]
  fields :=
    [⟨"bait", "int", .isPublic, [.header "\"); Destroy(this); //", .tooltip "\\"]⟩,
    ⟨"m_hook", "int", .nonPublic, [.serializeMarker, .tooltip "\u0000\\\"\\\\"]⟩]

theorem rendered_quoted_lure :
    (Generation.build (some lure) .initial).answer = .ok () ∧
    ∃ u text, (Generation.build (some lure) .initial).request.held = some u ∧
      u.render = .ok text ∧
      cutLiterals? text.toList = some (lure.untold.editor.hollow.text.toList, u.contents) ∧
      ∀ shown ∈ lure.shownTexts, shown ∈ u.contents :=
  have accepted : (Generation.build (some lure) .initial).answer = .ok () := rfl
  ⟨accepted, rendered_quoted.2 lure accepted⟩

end Target

end Inspector
