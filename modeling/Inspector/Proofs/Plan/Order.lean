import Inspector.Proofs.Generation.Notices
import Inspector.Proofs.Target.Kinds
import Mathlib.Data.List.Perm.Basic

/-!
# The order of annotations

The annotations of a field are read one after the other. Headings and gaps become
statements where they are read. A range and a tooltip replace what was read of their
kind before, so that the last one decides.

On a valid field there is nothing to replace: it has no two annotations of one kind, in
whatever order (`Unrepeated.perm`). What only one kind means is then found wherever it
stands (`findSome?_of_unrepeated`), and is the same in every order (`findSome?_perm`).

**The law** (`Field.rearranged`): a valid field with its annotations in another order is
valid, is serialized if it was, and has the label and the drawing statement that it had.
Only the statements before the field and the notices follow the new order.
-/

namespace Inspector

open CSharp Diagnostics Number

/-! ## Annotations in another order -/

theorem Unrepeated.perm {annotations others : List Annotation} (h : Unrepeated others)
    (perm : annotations.Perm others) : Unrepeated annotations := by
  refine (perm.pairwise_iff fun {a b} apart => ?_).mpr h
  have same := Annotation.sameKind_comm b a
  rwa [same]

section Meaning

variable {β : Type} {meaning : Annotation → Option β}

/-- Where a list repeats no kind, what only one kind means is found wherever it stands. -/
theorem findSome?_of_unrepeated
    (one : ∀ a b, (meaning a).isSome → (meaning b).isSome → a.sameKind b)
    {annotations : List Annotation} (h : Unrepeated annotations) {a : Annotation}
    (mem : a ∈ annotations) {value : β} (own : meaning a = some value) :
    annotations.findSome? meaning = some value := by
  have found : value ∈ annotations.filterMap meaning := List.mem_filterMap.mpr ⟨a, mem, own⟩
  rw [filterMap_of_unrepeated one h] at found
  exact Option.mem_toList.mp found

theorem findSome?_perm (one : ∀ a b, (meaning a).isSome → (meaning b).isSome → a.sameKind b)
    {annotations others : List Annotation} (h : Unrepeated others)
    (perm : annotations.Perm others) :
    annotations.findSome? meaning = others.findSome? meaning := by
  cases found : annotations.findSome? meaning with
  | none =>
    rw [List.findSome?_eq_none_iff] at found
    symm
    rw [List.findSome?_eq_none_iff]
    intro a mem
    exact found a (perm.mem_iff.mpr mem)
  | some value =>
    obtain ⟨a, mem, own⟩ := List.exists_of_findSome?_eq_some found
    exact (findSome?_of_unrepeated one h (perm.mem_iff.mp mem) own).symm

end Meaning

namespace Field

/-! ## What decides -/

/-- A range of a valid field decides the drawing statement. -/
theorem drawStatement_of_range {f : Field} (valid : f.Valid) {min max : Single}
    (mem : .range min max ∈ f.annotations) : f.drawStatement =
      if f.type ∈ integralTypes then
        .call (.ident "EditorGUILayout") "IntSlider" [Reference.property f,
          .int (integerLimit min), .int (integerLimit max), .ident (Reference.labelName f)]
      else
        .call (.ident "EditorGUILayout") "Slider"
          [Reference.property f, .float min, .float max, .ident (Reference.labelName f)] := by
  have decides := findSome?_of_unrepeated Annotation.sameKind_of_limits? valid.2 mem rfl
  rw [drawStatement_eq valid, Reference.drawing, decides]

/-- A tooltip of a valid field decides the label. -/
theorem initial_labelMember_of_tooltip {f : Field} (valid : f.Valid) {text : String}
    (mem : .tooltip text ∈ f.annotations) : f.labelMember.initial =
      some (.create "GUIContent" [.str (Naming.displayName f.name), .str text]) := by
  have decides := findSome?_of_unrepeated Annotation.sameKind_of_tooltip? valid.2 mem rfl
  rw [labelMember_eq valid, Reference.label, decides]
  rfl

section Order

variable {f : Field} {annotations : List Annotation} (perm : annotations.Perm f.annotations)

include perm

theorem valid_of_perm (valid : f.Valid) : Valid { f with annotations := annotations } :=
  ⟨valid.1, valid.2.perm perm⟩

theorem limits?_of_perm (valid : f.Valid) :
    limits? { f with annotations := annotations } = f.limits? := by
  rw [limits?_eq (valid_of_perm perm valid), limits?_eq valid]
  exact findSome?_perm Annotation.sameKind_of_limits? valid.2 perm

theorem tooltip?_of_perm (valid : f.Valid) :
    tooltip? { f with annotations := annotations } = f.tooltip? := by
  rw [tooltip?_eq (valid_of_perm perm valid), tooltip?_eq valid]
  exact findSome?_perm Annotation.sameKind_of_tooltip? valid.2 perm

theorem labelMember_of_perm (valid : f.Valid) :
    labelMember { f with annotations := annotations } = f.labelMember := by
  rw [labelMember, tooltip?_of_perm perm valid]
  rfl

theorem drawStatement_of_perm (valid : f.Valid) :
    drawStatement { f with annotations := annotations } = f.drawStatement := by
  rw [drawStatement, limits?_of_perm perm valid]
  rfl

theorem drawsAnnotations_of_perm (valid : f.Valid) :
    (plan { f with annotations := annotations }).drawsAnnotations = f.plan.drawsAnnotations := by
  have empty : (leadStatements { f with annotations := annotations }).isEmpty =
      f.leadStatements.isEmpty := (perm.filterMap _).isEmpty_eq
  show (!_ || _ || _) = (!_ || _ || _)
  rw [empty, limits?_of_perm perm valid, tooltip?_of_perm perm valid]

theorem isSerialized_of_perm :
    isSerialized { f with annotations := annotations } = f.isSerialized := by
  rw [Bool.eq_iff_iff]
  simp [isSerialized, isPublic, perm.mem_iff]

theorem notices_of_perm : (Report.notices (planReports { f with annotations := annotations })).Perm
    (Report.notices f.planReports) := by
  rw [notices_planReports, notices_planReports]
  exact perm.filterMap _

end Order

/-! ## The law -/

/-- A field and the same field with its annotations in another order. -/
structure Rearranged (f g : Field) : Prop where
  valid : g.fault? = none
  serialized : g.isSerialized = f.isSerialized
  label : g.plan.label = f.plan.label
  body : g.plan.body = f.plan.body
  drawsAnnotations : g.plan.drawsAnnotations = f.plan.drawsAnnotations
  /-- The statements before the field follow the new order. -/
  lead : g.plan.lead = g.annotations.flatMap Reference.lead
  /-- So do the notices, which followed the old one before. -/
  notices : Report.notices g.planReports = g.annotations.filterMap (·.notice? f.name) ∧
    Report.notices f.planReports = f.annotations.filterMap (·.notice? f.name) ∧
    (Report.notices g.planReports).Perm (Report.notices f.planReports)
  /-- A range decides the drawing statement wherever it stands. -/
  range : ∀ min max, .range min max ∈ g.annotations → g.plan.body =
    if f.type ∈ integralTypes then
      .call (.ident "EditorGUILayout") "IntSlider" [Reference.property f,
        .int (integerLimit min), .int (integerLimit max), .ident (Reference.labelName f)]
    else
      .call (.ident "EditorGUILayout") "Slider"
        [Reference.property f, .float min, .float max, .ident (Reference.labelName f)]
  /-- A tooltip decides the label wherever it stands. -/
  tooltip : ∀ text, .tooltip text ∈ g.annotations → g.plan.label.initial =
    some (.create "GUIContent" [.str (Naming.displayName f.name), .str text])

/-- In another order the annotations of a valid field come to the same label and the same
drawing statement. -/
theorem rearranged {f : Field} (valid : f.fault? = none) {annotations : List Annotation}
    (perm : annotations.Perm f.annotations) :
    f.Rearranged { f with annotations := annotations } := by
  have own : f.Valid := fault?_eq_none_iff.mp valid
  have other := valid_of_perm perm own
  exact {
    valid := fault?_eq_none_iff.mpr other
    serialized := isSerialized_of_perm perm
    label := labelMember_of_perm perm own
    body := drawStatement_of_perm perm own
    drawsAnnotations := drawsAnnotations_of_perm perm own
    lead := leadStatements_eq _
    notices := ⟨notices_planReports _, f.notices_planReports, notices_of_perm perm⟩
    range := fun _ _ mem => drawStatement_of_range other mem
    tooltip := fun _ mem => initial_labelMember_of_tooltip other mem }

/-- A field with one annotation of each kind that becomes code, and two that do not. -/
def thruster : Field where
  name := "thrust"
  type := "float"
  visibility := .nonPublic
  annotations := [.serializeMarker, .header "Motion", .range (.ofInt 0) (.ofInt 10),
    .unrecognized "Wet", .space (.ofInt 8), .tooltip "Force", .deferred .delayed]

theorem rearranged_thruster : thruster.fault? = none ∧
    thruster.annotations.reverse.Perm thruster.annotations ∧
    thruster.Rearranged { thruster with annotations := thruster.annotations.reverse } :=
  have valid : thruster.fault? = none := by decide
  have perm := List.reverse_perm thruster.annotations
  ⟨valid, perm, rearranged valid perm⟩

end Field

end Inspector
