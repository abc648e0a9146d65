import Inspector.Target.Annotations

/-!
# Kinds of annotations

Annotations have a kind in two ways. There is the name of the kind, which an
unrecognized annotation takes from its author; and there is the comparison, which keeps
what is unrecognized apart from what is not. Beyond that the comparison is one of names
(`Annotation.sameKind_iff`), since no two of the recognized kinds have the same name. So
it is an equivalence, whatever the annotations hold.
-/

namespace Inspector

theorem DeferredKind.name_inj {kind other : DeferredKind} :
    kind.name = other.name ↔ kind = other := by
  cases kind <;> cases other <;> decide

namespace Annotation

/-- Whether an annotation is only known by its name. -/
def isUnrecognized : Annotation → Bool
  | unrecognized _ => true
  | _ => false

/-- Annotations are of one kind exactly if the names of their kinds are the same and both
are recognized or neither is. -/
theorem sameKind_iff {a b : Annotation} :
    a.sameKind b ↔ a.kind = b.kind ∧ a.isUnrecognized = b.isUnrecognized := by
  -- the deferred kinds are not called as one of the other recognized kinds
  have apart (deferred : DeferredKind) : ∀ other ∈
      ["serialize_field", "non_serialized", "header", "space", "range", "tooltip"],
      deferred.name ≠ other ∧ other ≠ deferred.name := by
    cases deferred <;> decide
  simp only [List.forall_mem_cons] at apart
  cases a <;> cases b <;> simp [sameKind, kind, isUnrecognized, DeferredKind.name_inj, apart]

theorem sameKind_equivalence : Equivalence fun a b : Annotation => a.sameKind b where
  refl _ := sameKind_iff.mpr ⟨rfl, rfl⟩
  symm same := by
    obtain ⟨name, known⟩ := sameKind_iff.mp same
    exact sameKind_iff.mpr ⟨name.symm, known.symm⟩
  trans first second := by
    obtain ⟨name, known⟩ := sameKind_iff.mp first
    obtain ⟨name', known'⟩ := sameKind_iff.mp second
    exact sameKind_iff.mpr ⟨name.trans name', known.trans known'⟩

theorem sameKind_comm (a b : Annotation) : a.sameKind b = b.sameKind a :=
  Bool.eq_iff_iff.mpr ⟨sameKind_equivalence.symm, sameKind_equivalence.symm⟩

end Annotation

end Inspector
