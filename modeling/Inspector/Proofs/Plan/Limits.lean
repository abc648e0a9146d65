import Inspector.Proofs.Editor.Reference
import Inspector.Proofs.Number.Value

/-!
# The limits of a slider over integers

The limits of a range are numbers of 32 bits, and the literals of a slider over integers
are integers of 32 bits. So a limit is changed where it has a fraction, where it is
beyond the integers of the host, and where it is no number at all. Nothing is checked
before that: the field may be invalid, and the range may be one of several, of which the
last one decides (`Field.LastRange`).

**The law** (`Field.intSlider_exact`): each literal is what its limit stands for, without
its fraction and held between the ends of the integers, or zero where the limit stands
for nothing. The first part is about exact numbers: rounding has no say in it, however
far apart the numbers of 32 bits lie. So both literals are integers of the host, and they
are in order if what the limits stand for is.
-/

namespace Inspector

open CSharp Number

/-- The integers of the host have 32 bits. -/
def IsHostInteger (n : Int) : Prop :=
  -2 ^ 31 ≤ n ∧ n ≤ 2 ^ 31 - 1

/-- The literal of what a limit stands for, zero if that is nothing. -/
def exactLimit (limit : Option Exact) : Int :=
  limit.elim 0 (Exact.held (-2 ^ 31) (2 ^ 31 - 1))

theorem integerLimit_eq (limit : Single) : integerLimit limit = exactLimit limit.value? :=
  Binary.truncate_eq _ _ limit

theorem isHostInteger_exactLimit (limit : Option Exact) : IsHostInteger (exactLimit limit) := by
  cases limit with
  | none => exact ⟨by decide, by decide⟩
  | some value => exact Exact.held_bounds (by decide) value

/-- The literals of limits are in order if what the limits stand for is. -/
theorem integerLimit_le_of_le {min max : Single} {a b : Exact} (low : min.value? = some a)
    (high : max.value? = some b) (le : a ≤ b) : integerLimit min ≤ integerLimit max := by
  have atMost : min.AtMost max := Binary.atMost_iff_le.mpr ⟨a, b, low, high, le⟩
  exact Binary.truncate_mono (by decide) atMost

namespace Field

/-- The range that decides: no other one is behind it. -/
def LastRange (f : Field) (min max : Single) : Prop :=
  ∃ before after, f.annotations = before ++ .range min max :: after ∧
    ∀ low high, .range low high ∉ after

theorem limits?_eq_some_iff {f : Field} {min max : Single} :
    f.limits? = some (min, max) ↔ f.LastRange min max := by
  have of_limits {a : Annotation} (own : a.limits? = some (min, max)) : a = .range min max := by
    cases a <;> cases own
    rfl
  rw [limits?, List.getLast?_filterMap, List.findSome?_eq_some_iff]
  constructor
  · rintro ⟨after, a, before, split, own, others⟩
    rw [List.reverse_eq_iff] at split
    refine ⟨before.reverse, after.reverse, ?_, fun low high mem => ?_⟩
    · simp [split, of_limits own]
    · cases others _ (List.mem_reverse.mp mem)
  · rintro ⟨before, after, split, others⟩
    refine ⟨after.reverse, .range min max, before.reverse, by simp [split], rfl, ?_⟩
    intro a mem
    cases a with
    | range low high => exact absurd (List.mem_reverse.mp mem) (others low high)
    | _ => rfl

/-- The slider of a field over integers. -/
theorem body_plan_of_integral {f : Field} (integral : f.type ∈ integralTypes) {min max : Single}
    (last : f.LastRange min max) :
    f.plan.body = .call (.ident "EditorGUILayout") "IntSlider" [Reference.property f,
      .int (integerLimit min), .int (integerLimit max), .ident (Reference.labelName f)] := by
  show f.drawStatement = _
  have known : f.isIntegral = true := List.contains_iff_mem.mpr integral
  rw [drawStatement, limits?_eq_some_iff.mpr last]
  simp only [known, if_true]
  rfl

/-! ## The law -/

/-- The slider of a field over integers goes from the exact literal of the lower limit to
that of the upper one, which are integers of the host and in the order of the limits. -/
theorem intSlider_exact {f : Field} (integral : f.type ∈ integralTypes) {min max : Single}
    (last : f.LastRange min max) : ∃ low high : Int,
      f.plan.body = .call (.ident "EditorGUILayout") "IntSlider"
        [Reference.property f, .int low, .int high, .ident (Reference.labelName f)] ∧
      low = exactLimit min.value? ∧ high = exactLimit max.value? ∧
      IsHostInteger low ∧ IsHostInteger high ∧
      ∀ a b, min.value? = some a → max.value? = some b → a ≤ b → low ≤ high := by
  have hosted (limit : Single) : IsHostInteger (integerLimit limit) := by
    rw [integerLimit_eq]
    exact isHostInteger_exactLimit _
  refine ⟨_, _, body_plan_of_integral integral last, integerLimit_eq min, integerLimit_eq max,
    hosted min, hosted max, ?_⟩
  · intro a b low high le
    exact integerLimit_le_of_le low high le

/-- A field with two ranges, of which the last one has no end. -/
def dial : Field where
  name := "m_turns"
  type := "System.SByte"
  visibility := .isPublic
  annotations := [.range .nan .nan, .header "Dial", .range (.infinite true) (.infinite false),
    .tooltip "Turns"]

/-- Its slider goes over all integers of the host. -/
theorem intSlider_exact_dial : dial.type ∈ integralTypes ∧
    dial.LastRange (.infinite true) (.infinite false) ∧
    dial.plan.body = .call (.ident "EditorGUILayout") "IntSlider" [Reference.property dial,
      .int (-2147483648), .int 2147483647, .ident "m_turnsContent"] := by
  have integral : dial.type ∈ integralTypes := by decide
  have last : dial.LastRange (.infinite true) (.infinite false) :=
    ⟨[.range .nan .nan, .header "Dial"], [.tooltip "Turns"], rfl, by simp⟩
  obtain ⟨low, high, body, exactLow, exactHigh, -⟩ := intSlider_exact integral last
  cases exactLow
  cases exactHigh
  exact ⟨integral, last, body⟩

end Field

end Inspector
