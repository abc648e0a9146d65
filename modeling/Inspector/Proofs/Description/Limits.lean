import Inspector.Description.Entry
import Inspector.Proofs.Answers

/-!
# What a description lets through

A description becomes a target entry by entry, and only if every entry becomes what
it describes: the fields of the target follow the entries of the description, and
the annotations of a field those of its entry (`Description.toTarget_eq_ok_iff`).

So what holds of every annotation that an entry can become holds of the target. An
entry becomes a range only with both limits, and only if the upper one is not
compared as less than the lower one (`AnnotationEntry.toMark_eq_range_iff`). That
comparison leaves not-a-number out, in either place.
-/

namespace Inspector

open Number

/-- Whatever was read was read from a member. -/
theorem exists_of_forall₂ {α β : Type} {R : α → β → Prop} {xs : List α} {ys : List β}
    (all : List.Forall₂ R xs ys) : ∀ y ∈ ys, ∃ x ∈ xs, R x y := by
  induction all with
  | nil => exact List.forall_mem_nil _
  | cons first _ ih =>
    refine List.forall_mem_cons.mpr ⟨⟨_, List.mem_cons_self, first⟩, fun y mem => ?_⟩
    obtain ⟨x, known, related⟩ := ih y mem
    exact ⟨x, List.mem_cons_of_mem _ known, related⟩

/-! ## Entries -/

namespace AnnotationEntry

theorem requireLimits_eq_ok_iff {e : AnnotationEntry} {min max : Single} :
    e.requireLimits = .ok (min, max) ↔
      e.min = some min ∧ e.max = some max ∧ max.lt min = false := by
  rw [requireLimits]
  cases e.min with
  | none => simp
  | some low =>
    cases e.max with
    | none => simp
    | some high =>
      by_cases reversed : high.lt low
      · simp only [reversed, if_true, reduceCtorEq, Option.some.injEq, false_iff, not_and]
        rintro rfl rfl
        simp [reversed]
      · simp only [reversed, Bool.false_eq_true, if_false, Except.ok.injEq, Prod.mk.injEq,
          Option.some.injEq]
        refine and_congr_right fun low => ⟨fun high => ⟨high, ?_⟩, fun high => high.1⟩
        rw [← low, ← high]
        exact Bool.eq_false_iff.mpr reversed

theorem nameOnly_ne_range (kind : String) (min max : Single) :
    nameOnly kind ≠ .ok (.range min max) := by
  unfold nameOnly
  split
  · simp
  · split <;> simp

/-- An entry becomes a range only by its kind, with both limits, and in their order. -/
theorem toMark_eq_range_iff {e : AnnotationEntry} {min max : Single} :
    e.toMark = .ok (.range min max) ↔ e.kind = "range" ∧
      e.min = some min ∧ e.max = some max ∧ max.lt min = false := by
  rw [← requireLimits_eq_ok_iff]
  unfold toMark
  split
  next kind => simp [kind]
  next kind => simp [kind]
  next kind => cases text : e.requireText <;> simp [kind, Except.map]
  next kind => cases text : e.requireText <;> simp [kind, Except.map]
  next kind => simp [kind]
  next kind =>
    cases limits : e.requireLimits with
    | error fault => simp [Except.map]
    | ok both => simp [kind, Except.map, Prod.ext_iff]
  next other => exact iff_of_false (nameOnly_ne_range _ _ _) fun range => other range.1

end AnnotationEntry

theorem FieldEntry.toField_eq_ok_iff {e : FieldEntry} {f : Field} : e.toField = .ok f ↔
    f.name = e.name ∧ f.type = e.type ∧ f.visibility = e.visibility ∧
      List.Forall₂ (fun a b => a.toMark = .ok b) e.annotations f.annotations := by
  rw [toField, ← mapM_eq_ok_iff]
  cases marks : e.annotations.mapM AnnotationEntry.toMark with
  | error fault => simp
  | ok annotations =>
    obtain ⟨name, type, visibility, own⟩ := f
    simp [eq_comm]

theorem Description.toTarget_eq_ok_iff {d : Description} {t : Target} : d.toTarget = .ok t ↔
    t.name = d.name ∧ t.scope = d.scope ∧ t.lineage = d.lineage ∧
      List.Forall₂ (fun e f => e.toField = .ok f) d.fields t.fields := by
  rw [toTarget, ← mapM_eq_ok_iff]
  cases fields : d.fields.mapM FieldEntry.toField with
  | error fault => simp [Except.map]
  | ok own =>
    obtain ⟨name, scope, lineage, fields⟩ := t
    simp [Except.map, eq_comm]

/-! ## Ranges -/

/-- The limits of every range in a described target are in their order, as far as
they are compared. -/
theorem Description.limits_ordered {d : Description} {t : Target} (described : d.toTarget = .ok t)
    {f : Field} (field : f ∈ t.fields) {min max : Single} (range : .range min max ∈ f.annotations) :
    max.lt min = false := by
  obtain ⟨_, _, _, fields⟩ := Description.toTarget_eq_ok_iff.mp described
  obtain ⟨entry, _, read⟩ := exists_of_forall₂ fields f field
  obtain ⟨_, _, _, annotations⟩ := FieldEntry.toField_eq_ok_iff.mp read
  obtain ⟨own, _, mark⟩ := exists_of_forall₂ annotations _ range
  exact (AnnotationEntry.toMark_eq_range_iff.mp mark).2.2.2

end Inspector
