import Inspector.Proofs.Target.Accepted
import Inspector.Proofs.Target.Identifiers

/-!
# Refused targets

Which fault of a target is reported. The checks are searches, and what a search
finds is said here without it: a fault is the first one if everything that is
read before it is in order. Nothing of a target is read unless one of its
ancestors has editors; then come its name, its namespace, and its fields from
the first to the last, whether they are serialized or not. Of a field the name
is read before the annotations.

`Target.Refused` is the whole of it. It is what the checks decide
(`accept_eq_error_iff`), and beside `accept_eq_ok_iff` no target is left.
-/

namespace Inspector

/-! ## Fields -/

/-- The first fault of a field. A repeated kind is that of the first annotation
with an earlier one of its kind. -/
inductive Field.FirstFault (f : Field) : InputFault → Prop
  | name (bad : ¬isIdentifier f.name) : FirstFault f (.fieldName f.name)
  | repeated {before after : List Annotation} {a : Annotation} (named : isIdentifier f.name)
    (cut : f.annotations = before ++ a :: after) (apart : Unrepeated before)
    (again : ∃ b ∈ before, b.sameKind a) : FirstFault f (.repeatedKind f.name a.kind)

theorem firstRepeat?_eq_some_iff {earlier annotations : List Annotation} {a : Annotation} :
    firstRepeat? earlier annotations = some a ↔
      ∃ before after, annotations = before ++ a :: after ∧ firstRepeat? earlier before = none ∧
        ∃ b ∈ earlier ++ before, b.sameKind a := by
  -- the search moves what it passes to `earlier`, so the induction is for every `earlier`
  induction annotations generalizing earlier with
  | nil => simp [firstRepeat?]
  | cons c rest ih =>
    by_cases found : earlier.any (·.sameKind c)
    · rw [firstRepeat?, if_pos found]
      constructor
      · intro same
        cases same
        exact ⟨[], rest, rfl, rfl, by simpa using found⟩
      · rintro ⟨before, after, cut, none, _⟩
        cases before with
        | nil =>
          cases cut
          rfl
        | cons d before =>
          -- `c` repeats something of `earlier`, so it cannot be passed on the way to `a`
          cases cut
          rw [firstRepeat?, if_pos found] at none
          cases none
    · rw [firstRepeat?, if_neg found, ih]
      constructor
      · rintro ⟨before, after, rfl, none, again⟩
        refine ⟨c :: before, after, rfl, ?_, by simpa using again⟩
        rw [firstRepeat?, if_neg found]
        exact none
      · rintro ⟨before, after, cut, none, again⟩
        cases before with
        | nil =>
          cases cut
          exact absurd (by simpa using again) found
        | cons d before =>
          cases cut
          rw [firstRepeat?, if_neg found] at none
          exact ⟨before, after, rfl, none, by simpa using again⟩

theorem Field.fault?_eq_some_iff {f : Field} {fault : InputFault} :
    f.fault? = some fault ↔ f.FirstFault fault := by
  unfold Field.fault?
  by_cases named : isIdentifier f.name
  · simp only [named, Bool.not_true, Bool.false_eq_true, if_false, Option.map_eq_some_iff,
      firstRepeat?_eq_some_iff, List.nil_append]
    constructor
    · rintro ⟨a, ⟨before, after, cut, none, again⟩, rfl⟩
      exact .repeated named cut (firstRepeat?_eq_none_iff.mp none).1 again
    · intro first
      cases first with
      | name bad => exact absurd named bad
      | repeated _ cut apart again =>
        exact ⟨_, ⟨_, _, cut, firstRepeat?_eq_none_iff.mpr ⟨apart, by simp⟩, again⟩, rfl⟩
  · simp only [named, Bool.not_false, if_true, Option.some.injEq]
    constructor
    · rintro rfl
      exact .name named
    · intro first
      cases first with
      | name _ => rfl
      | repeated good => exact absurd good named

/-! ## Targets -/

/-- The ancestors that have editors. -/
def editableAncestors : List String :=
  ["UnityEngine.MonoBehaviour", "MonoBehaviour", "UnityEngine.ScriptableObject", "ScriptableObject"]

namespace Target

/-- One of the ancestors has editors. -/
def Eligible (t : Target) : Prop :=
  ∃ ancestor ∈ t.lineage, ancestor ∈ editableAncestors

theorem isEligible_iff {t : Target} : t.isEligible ↔ t.Eligible := by
  have derives (base short : String) (cut : Text.lastSegment '.' base.toList = short.toList) :
      t.derivesFrom base ↔ ∃ ancestor ∈ t.lineage, ancestor = base ∨ ancestor = short := by
    simp only [derivesFrom, cut, String.ofList_toList, List.any_eq_true, Bool.or_eq_true,
      beq_iff_eq]
  have behaviour := derives "UnityEngine.MonoBehaviour" "MonoBehaviour" (by decide)
  have asset := derives "UnityEngine.ScriptableObject" "ScriptableObject" (by decide)
  simp only [isEligible, eligibleBases, List.any_cons, List.any_nil, Bool.or_false, Bool.or_eq_true,
    behaviour, asset, Eligible, editableAncestors, List.mem_cons, List.not_mem_nil, or_false]
  constructor
  · rintro (⟨ancestor, mem, same⟩ | ⟨ancestor, mem, same⟩)
    · exact ⟨ancestor, mem, same.elim .inl fun same => .inr (.inl same)⟩
    · exact ⟨ancestor, mem, .inr (.inr same)⟩
  · rintro ⟨ancestor, mem, same | same | same⟩
    · exact .inl ⟨ancestor, mem, .inl same⟩
    · exact .inl ⟨ancestor, mem, .inr same⟩
    · exact .inr ⟨ancestor, mem, same⟩

/-- The namespace is missing, empty, or made of identifiers with dots between
them. -/
def WellScoped (t : Target) : Prop :=
  ∀ scope, t.scope = some scope → scope = "" ∨
    ∃ names, names ≠ [] ∧ (∀ name ∈ names, isIdentifier name) ∧ scope = ".".intercalate names

theorem scopeValid_iff {t : Target} : t.ScopeValid ↔ t.WellScoped := by
  simp only [ScopeValid, WellScoped, enclosing, Option.filter_eq_some_iff, decide_eq_true_eq,
    ← isDottedName_iff]
  constructor
  · intro valid scope given
    by_cases empty : scope = ""
    · exact .inl empty
    · exact .inr (valid scope ⟨given, empty⟩)
  · rintro valid scope ⟨given, some⟩
    exact (valid scope given).resolve_left some

/-- The first fault of a target. -/
inductive FirstFault (t : Target) : InputFault → Prop
  | name (bad : ¬isIdentifier t.name) : FirstFault t (.typeName t.name)
  | scope {scope : String} (named : isIdentifier t.name) (given : t.scope = some scope)
    (bad : ¬t.WellScoped) : FirstFault t (.scopeName scope)
  | field {before after : List Field} {f : Field} {fault : InputFault}
    (named : isIdentifier t.name) (placed : t.WellScoped) (cut : t.fields = before ++ f :: after)
    (valid : ∀ g ∈ before, g.Valid) (first : f.FirstFault fault) : FirstFault t fault

theorem scopeFault?_eq_some_iff {t : Target} {fault : InputFault} :
    t.scopeFault? = some fault ↔
      ∃ scope, t.scope = some scope ∧ ¬t.WellScoped ∧ fault = .scopeName scope := by
  rw [← scopeValid_iff, ScopeValid, scopeFault?]
  constructor
  · intro found
    cases counts : t.enclosing with
    | none => simp [counts] at found
    | some scope =>
      have given : t.scope = some scope := (Option.filter_eq_some_iff.mp counts).1
      by_cases dotted : isDottedName scope
      · simp [counts, dotted] at found
      · refine ⟨scope, given, fun valid => dotted (valid scope rfl), ?_⟩
        simpa [counts, dotted, eq_comm] using found
  · rintro ⟨scope, given, bad, rfl⟩
    cases counts : t.enclosing with
    | none => simp [counts] at bad
    | some other =>
      have same : scope = other :=
        Option.some.inj (given.symm.trans (Option.filter_eq_some_iff.mp counts).1)
      subst same
      have undotted : ¬isDottedName scope := by simpa [counts] using bad
      simp [undotted]

theorem fault?_eq_some_iff {t : Target} {fault : InputFault} :
    t.fault? = some fault ↔ t.FirstFault fault := by
  unfold fault?
  by_cases named : isIdentifier t.name
  · simp only [named, Bool.not_true, Bool.false_eq_true, if_false, Option.or_eq_some_iff,
      scopeFault?_eq_some_iff, scopeFault?_eq_none_iff, scopeValid_iff,
      List.findSome?_eq_some_iff, Field.fault?_eq_some_iff, Field.fault?_eq_none_iff]
    constructor
    · rintro (⟨scope, given, bad, rfl⟩ | ⟨placed, before, f, after, cut, first, valid⟩)
      · exact .scope named given bad
      · exact .field named placed cut valid first
    · intro first
      cases first with
      | name bad => exact absurd named bad
      | scope _ given bad => exact .inl ⟨_, given, bad, rfl⟩
      | field _ placed cut valid first => exact .inr ⟨placed, _, _, _, cut, first, valid⟩
  · simp only [named, Bool.not_false, if_true, Option.some.injEq]
    constructor
    · rintro rfl
      exact .name named
    · intro first
      cases first with
      | name _ => rfl
      | scope good => exact absurd good named
      | field good => exact absurd good named

/-! ## Refusals -/

/-- Why a target that is asked for may not have an editor. -/
inductive Refused : Option Target → Refusal → Prop
  | missing : Refused none (.invalidInput .targetMissing)
  | ineligible {t : Target} (bad : ¬t.Eligible) :
    Refused (some t) (.ineligibleType t.qualifiedName)
  | faulty {t : Target} {fault : InputFault} (eligible : t.Eligible) (first : t.FirstFault fault) :
    Refused (some t) (.invalidInput fault)

theorem accept_eq_error_iff {target : Option Target} {refusal : Refusal} :
    accept target = .error refusal ↔ Refused target refusal := by
  cases target with
  | none =>
    constructor
    · intro h
      cases h
      exact .missing
    · intro h
      cases h
      rfl
  | some t =>
    rw [accept]
    by_cases eligible : t.isEligible
    · have good : t.Eligible := isEligible_iff.mp eligible
      have faulty : Refused (some t) refusal ↔
          ∃ fault, t.fault? = some fault ∧ refusal = .invalidInput fault := by
        constructor
        · intro h
          cases h with
          | ineligible bad => exact absurd good bad
          | faulty _ first => exact ⟨_, fault?_eq_some_iff.mpr first, rfl⟩
        · rintro ⟨fault, found, rfl⟩
          exact .faulty good (fault?_eq_some_iff.mp found)
      rw [if_pos eligible, faulty]
      cases t.fault? <;> simp [eq_comm]
    · have bad : ¬t.Eligible := fun good => eligible (isEligible_iff.mpr good)
      rw [if_neg eligible, Except.error.injEq]
      constructor
      · rintro rfl
        exact .ineligible bad
      · intro h
        cases h with
        | ineligible _ => rfl
        | faulty good => exact absurd good bad

end Target

end Inspector
