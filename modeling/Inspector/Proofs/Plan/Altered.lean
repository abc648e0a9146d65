import Inspector.Proofs.Editor.Reference

/-!
# Fields whose annotations are drawn

A plan has its code, and a flag that an annotation became part of it. The flag is read off
what was met on the way through the annotations. Here it is compared with the code itself,
and with that of the bare field, which has no annotations at all.

**The law** (`Field.drawsAnnotations_iff`): the flag is up exactly for fields whose code is
not that of the bare field. Each of the three parts of the code tells of annotations of its
own: the label of a tooltip, the statements before the field of headings and gaps, and the
statement that draws it of a range. No text or number that they have is needed for it.
-/

namespace Inspector

open CSharp

/-- The code of a plan: the label, the statements before the field and the one that draws it. -/
def FieldPlan.code (p : FieldPlan) : FieldDecl × List Expr × Expr :=
  (p.label, p.lead, p.body)

namespace Field

variable (f : Field)

/-- The field without its annotations. -/
def bare : Field :=
  { f with annotations := [] }

/-- The annotations of a field make a difference to its code. -/
def Altered : Prop :=
  f.plan.code ≠ f.bare.plan.code

theorem label_plan_eq_bare_iff : f.plan.label = f.bare.plan.label ↔ f.tooltip? = none := by
  show f.labelMember = f.bare.labelMember ↔ _
  cases tooltip : f.tooltip? with
  | none =>
    have same : f.labelMember = f.bare.labelMember := by
      rw [labelMember, tooltip]
      rfl
    simp [same]
  | some text =>
    have longer : f.labelMember ≠ f.bare.labelMember := by
      rw [labelMember, tooltip]
      simp [labelMember, bare, Field.tooltip?]
    simp [longer]

theorem lead_plan_eq_bare_iff : f.plan.lead = f.bare.plan.lead ↔ f.leadStatements = [] :=
  Iff.rfl

theorem body_plan_eq_bare_iff : f.plan.body = f.bare.plan.body ↔ f.limits? = none := by
  show f.drawStatement = f.bare.drawStatement ↔ _
  have plain : f.bare.drawStatement =
      .call editorLayout "PropertyField" [f.property, .ident f.labelName] := rfl
  rw [plain, drawStatement]
  cases f.limits? with
  | none => simp
  | some limits =>
    -- a slider is another function of the host
    by_cases integral : f.isIntegral <;> simp [integral]

/-- The flag tells whether the annotations make a difference to the code. -/
theorem drawsAnnotations_iff : f.plan.drawsAnnotations ↔ f.Altered := by
  have same : f.plan.code = f.bare.plan.code ↔
      f.tooltip? = none ∧ f.leadStatements = [] ∧ f.limits? = none := by
    simp only [FieldPlan.code, Prod.mk.injEq, label_plan_eq_bare_iff, lead_plan_eq_bare_iff,
      body_plan_eq_bare_iff]
  have flag : f.plan.drawsAnnotations =
      (!f.leadStatements.isEmpty || f.limits?.isSome || f.tooltip?.isSome) := rfl
  rw [Altered, ne_eq, same, flag]
  cases f.leadStatements <;> cases f.limits? <;> cases f.tooltip? <;> simp

instance : Decidable f.Altered :=
  decidable_of_iff _ f.drawsAnnotations_iff

end Field

namespace Target

/-- The selected fields with annotations that make a difference, by name and in order. -/
def altered (t : Target) : List String :=
  ((Reference.selected t).filter fun f => f.Altered).map (·.name)

/-- These are the fields of which an editor says that it draws their annotations. -/
theorem annotated_draft (t : Target) : t.draft.annotated = t.altered := by
  rw [draft_eq, altered, serializedFields_eq]
  refine congrArg (List.map _) (List.filter_congr fun f _ => ?_)
  rw [Bool.eq_iff_iff, decide_eq_true_iff]
  exact f.drawsAnnotations_iff

end Target

end Inspector
