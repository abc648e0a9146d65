import Inspector.Target.Validity

/-!
# Accepted targets

What it means that a target may have an editor: it has an ancestor with editors,
its names are identifiers, and no field has two annotations of one kind
(`accept_eq_ok_iff`). The checks look for the first fault; here their success is
said without an order.

A kind occurs at most once on a field of an accepted target. So the annotation
that decides is the one there is, whether it is looked for from the front or
from the back (`filterMap_of_unrepeated`).
-/

namespace Inspector

/-! ## Fields -/

/-- No two annotations of a list are of one kind. -/
def Unrepeated (annotations : List Annotation) : Prop :=
  annotations.Pairwise fun a b => a.sameKind b = false

theorem firstRepeat?_eq_none_iff {earlier annotations : List Annotation} :
    firstRepeat? earlier annotations = none ↔
      Unrepeated annotations ∧ ∀ e ∈ earlier, ∀ a ∈ annotations, e.sameKind a = false := by
  induction annotations generalizing earlier with
  | nil => simp [firstRepeat?, Unrepeated]
  | cons a rest ih =>
    rw [firstRepeat?]
    split
    next found =>
      obtain ⟨e, mem, same⟩ := List.any_eq_true.mp found
      simp only [reduceCtorEq, false_iff, not_and]
      intro _ apart
      rw [apart e mem a List.mem_cons_self] at same
      cases same
    next missing =>
      have own : ∀ e ∈ earlier, e.sameKind a = false := by
        intro e mem
        exact Bool.eq_false_iff.mpr fun same => missing (List.any_eq_true.mpr ⟨e, mem, same⟩)
      simp only [ih, Unrepeated, List.pairwise_cons, List.forall_mem_append, List.forall_mem_cons,
        List.not_mem_nil, false_implies, implies_true, and_true]
      constructor
      · rintro ⟨apart, before, here⟩
        exact ⟨⟨here, apart⟩, fun e mem => ⟨own e mem, before e mem⟩⟩
      · rintro ⟨⟨here, apart⟩, before⟩
        exact ⟨apart, fun e mem => (before e mem).2, here⟩

/-- A field without a fault. -/
def Field.Valid (f : Field) : Prop :=
  isIdentifier f.name ∧ Unrepeated f.annotations

theorem Field.fault?_eq_none_iff {f : Field} : f.fault? = none ↔ f.Valid := by
  rw [fault?, Valid]
  by_cases name : isIdentifier f.name <;> simp [name, firstRepeat?_eq_none_iff]

/-- Where a list repeats no kind, at most one annotation has a meaning that only
one kind has. -/
theorem filterMap_of_unrepeated {β : Type} {meaning : Annotation → Option β}
    (one : ∀ a b, (meaning a).isSome → (meaning b).isSome → a.sameKind b)
    {annotations : List Annotation} (h : Unrepeated annotations) :
    annotations.filterMap meaning = (annotations.findSome? meaning).toList := by
  induction annotations with
  | nil => rfl
  | cons a rest ih =>
    obtain ⟨here, others⟩ := List.pairwise_cons.mp h
    cases found : meaning a with
    | none => rw [List.filterMap_cons_none found, List.findSome?_cons, found, ih others]
    | some value =>
      have none : ∀ b ∈ rest, meaning b = none := by
        intro b mem
        cases other : meaning b with
        | none => rfl
        | some =>
          have same := one a b (by simp [found]) (by simp [other])
          rw [here b mem] at same
          cases same
      rw [List.filterMap_cons_some found, List.findSome?_cons, found,
        List.filterMap_eq_nil_iff.mpr none]
      rfl

/-! ## Targets -/

namespace Target

/-- The namespace that counts, if there is one, is a dotted name. -/
def ScopeValid (t : Target) : Prop :=
  ∀ scope, t.enclosing = some scope → isDottedName scope

theorem scopeFault?_eq_none_iff {t : Target} : t.scopeFault? = none ↔ t.ScopeValid := by
  rw [scopeFault?, ScopeValid]
  cases t.enclosing <;> simp

/-- A target that may have an editor. -/
structure Acceptable (t : Target) : Prop where
  eligible : t.isEligible
  name : isIdentifier t.name
  scope : t.ScopeValid
  fields : ∀ f ∈ t.fields, f.Valid

theorem fault?_eq_none_iff {t : Target} :
    t.fault? = none ↔ isIdentifier t.name ∧ t.ScopeValid ∧ ∀ f ∈ t.fields, f.Valid := by
  rw [fault?]
  by_cases name : isIdentifier t.name <;>
    simp [name, scopeFault?_eq_none_iff, Field.fault?_eq_none_iff]

/-- A target is accepted exactly if it is there and may have an editor, and it is
accepted as it is. -/
theorem accept_eq_ok_iff {target : Option Target} {t : Target} :
    accept target = .ok t ↔ target = some t ∧ t.Acceptable := by
  cases target with
  | none => simp [accept]
  | some own =>
    have all : own.Acceptable ↔ own.isEligible ∧ own.fault? = none := by
      rw [fault?_eq_none_iff]
      exact ⟨fun h => ⟨h.eligible, h.name, h.scope, h.fields⟩,
        fun h => ⟨h.1, h.2.1, h.2.2.1, h.2.2.2⟩⟩
    rw [accept]
    by_cases eligible : own.isEligible
    · cases fault : own.fault? with
      | none =>
        simp only [eligible, if_true, Except.ok.injEq, Option.some.injEq]
        exact ⟨fun same => ⟨same, same ▸ all.mpr ⟨eligible, fault⟩⟩, fun h => h.1⟩
      | some value =>
        simp only [eligible, if_true, reduceCtorEq, Option.some.injEq, false_iff]
        rintro ⟨rfl, acceptable⟩
        rw [(all.mp acceptable).2] at fault
        cases fault
    · simp only [eligible, if_false, Bool.false_eq_true, reduceCtorEq, Option.some.injEq, false_iff]
      rintro ⟨rfl, acceptable⟩
      exact eligible acceptable.eligible

theorem Acceptable.accept {t : Target} (h : t.Acceptable) : Target.accept (some t) = .ok t :=
  accept_eq_ok_iff.mpr ⟨rfl, h⟩

end Target

end Inspector
