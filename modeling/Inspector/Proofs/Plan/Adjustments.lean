import Inspector.Proofs.Generation.Notices
import Inspector.Proofs.Plan.Limits

/-!
# Limits that were changed

A slider over integers may not go as far as its range says, and an event tells of each
limit whose literal is another number. Whether it is another one is asked in single
precision: the literal is rounded to the nearest number of 32 bits and compared there.

That is almost the same as asking whether the two are the same number. A literal that is
the whole part of its limit is a number of the format, and is not changed by rounding
(`Binary.isInt_ofInt_whole`). So is the least integer of the host. The greatest is not:
there the numbers of the format lie 128 apart, and it is rounded up to the first number
beyond the integers (`isInt_ofInt_greatest`).

**The law** (`Field.seen_adjustments`): whoever listens at the level `debug` or below is
told of just those limits that are not the same number as their literals, the lower one
first, with one exception. A limit that is that first number beyond becomes the greatest
integer, and nobody is told (`Field.untold_speedometer`).
-/

namespace Inspector

open CSharp Diagnostics Number

/-! ## The ends of the integers -/

/-- The rank of the first number beyond the integers of the host. -/
def beyondRank : Nat := 158 * 2 ^ 23

theorem units_beyondRank : Format.single.units beyondRank = 2 ^ 31 * 2 ^ Format.single.scale := by
  decide +kernel

/-- The number before it is 128 away. -/
theorem units_before_beyondRank :
    Format.single.units (beyondRank - 1) = (2 ^ 31 - 128) * 2 ^ Format.single.scale := by
  decide +kernel

theorem beyondRank_finite : beyondRank < Format.single.finiteCount := by decide

theorem isInt_ofInt_least : (Binary.ofInt (-2 ^ 31) : Single).IsInt (-2 ^ 31) :=
  Binary.isInt_ofInt beyondRank_finite units_beyondRank

/-- The greatest integer of the host is rounded up. -/
theorem isInt_ofInt_greatest : (Binary.ofInt (2 ^ 31 - 1) : Single).IsInt (2 ^ 31) := by
  have rounded : (Binary.ofInt (2 ^ 31 - 1) : Single) = Binary.ofInt (2 ^ 31) := by
    decide +kernel
  rw [rounded]
  exact Binary.isInt_ofInt beyondRank_finite units_beyondRank

/-- No number of the format stands for it. -/
theorem not_isInt_greatest (limit : Single) : ¬limit.IsInt (2 ^ 31 - 1) := by
  intro same
  cases limit with
  | nan => cases same
  | infinite negative => cases negative <;> cases same
  | finite negative rank =>
    have units : Format.single.units rank = (2 ^ 31 - 1) * 2 ^ Format.single.scale := by
      have scale : Format.single.scale = 149 := rfl
      have signed := Binary.isInt_finite_iff.mp same
      rw [scale] at signed ⊢
      cases negative with
      | true =>
        simp only [Binary.signed, if_true] at signed
        omega
      | false =>
        simp only [Binary.signed, Bool.false_eq_true, if_false] at signed
        omega
    -- its rank would lie between two neighbours
    have above : beyondRank - 1 < rank := by
      rw [← Format.single.units_strictMono.lt_iff_lt, units, units_before_beyondRank]
      decide
    have below : rank < beyondRank := by
      rw [← Format.single.units_strictMono.lt_iff_lt, units, units_beyondRank]
      decide
    omega

/-! ## Comparison in single precision -/

theorem integerLimit_finite (negative : Bool) (rank : Fin Format.single.finiteCount) :
    integerLimit (.finite negative rank) = max (-2 ^ 31) (min (2 ^ 31 - 1)
      (Binary.signed negative (Format.single.units rank / 2 ^ Format.single.scale))) :=
  Binary.truncate_finite _ _ negative rank

/-- All literals but the greatest are numbers of the format. -/
theorem isInt_ofInt_integerLimit {limit : Single} (other : integerLimit limit ≠ 2 ^ 31 - 1) :
    (Binary.ofInt (integerLimit limit) : Single).IsInt (integerLimit limit) := by
  cases limit with
  | nan =>
    have finite : 0 < Format.single.finiteCount := by decide
    exact Binary.isInt_ofInt finite (by decide)
  | infinite negative =>
    cases negative with
    | true => exact isInt_ofInt_least
    | false => exact absurd rfl other
  | finite negative rank =>
    have whole := Binary.isInt_ofInt_whole negative rank
    rw [integerLimit_finite] at other ⊢
    generalize Binary.signed negative _ = n at whole other ⊢
    by_cases low : n ≤ -2 ^ 31
    · have least : max (-2 ^ 31) (min (2 ^ 31 - 1) n) = -2 ^ 31 := by omega
      rw [least]
      exact isInt_ofInt_least
    · have own : max (-2 ^ 31) (min (2 ^ 31 - 1) n) = n := by omega
      rwa [own]

/-- What the comparison in single precision comes to. -/
theorem isAdjusted_iff {limit : Single} :
    isAdjusted limit ↔ ¬limit.IsInt (integerLimit limit) ∧ ¬limit.IsInt (2 ^ 31) := by
  rw [isAdjusted, Bool.not_eq_true', ← Bool.not_eq_true]
  by_cases greatest : integerLimit limit = 2 ^ 31 - 1
  · rw [greatest, isInt_ofInt_greatest.same_iff (by decide)]
    simp only [not_isInt_greatest, not_false_iff, true_and]
  · have within : ¬limit.IsInt (2 ^ 31) := by
      intro beyond
      exact greatest (beyond.truncate_eq _ _)
    rw [(isInt_ofInt_integerLimit greatest).same_iff (by decide)]
    simp only [within, not_false_iff, and_true]

namespace Field

variable (f : Field)

/-! ## Events -/

/-- The words on a limit that was changed. -/
def adjustmentWords : String := "range bound adjusted for IntSlider"

/-- The event on a limit with a literal that is another number. -/
def adjustment (limit : Single) (literal : Int) : Event :=
  .of .debug "editorgen_codegen::annotation" adjustmentWords
    [("field", .text f.name), ("value", .float limit.convert), ("bound", .int literal)]

theorem limitReports_of_integral {f : Field} (integral : f.type ∈ integralTypes)
    {min max : Single} (last : f.LastRange min max) : f.limitReports =
      (([min, max].filter isAdjusted).map fun limit =>
        f.adjustment limit (integerLimit limit)).map .event := by
  have known : f.isIntegral = true := List.contains_iff_mem.mpr integral
  rw [limitReports, limits?_eq_some_iff.mpr last]
  simp only [known, if_true, List.map_map]
  rfl

/-- On the annotations of a field nothing is told of limits. -/
theorem filter_seen_annotationReports (sink : Sink) (threshold : Level) :
    (seen sink threshold (f.annotations.flatMap f.annotationReports)).filter
      (·.tells adjustmentWords) = [] := by
  refine filter_seen_eq_nil sink threshold (by decide) fun e mem => ?_
  obtain ⟨a, _, own⟩ := List.mem_flatMap.mp mem
  rw [f.event_mem_annotationReports own]
  exact (Event.tells_of ..).trans (by decide)

/-- All events on limits are seen where the level `debug` passes. -/
theorem filter_seen_limitReports {f : Field} (integral : f.type ∈ integralTypes)
    {min max : Single} (last : f.LastRange min max) (sink : Sink) {threshold : Level}
    (passes : threshold.passes .debug) :
    (seen sink threshold f.limitReports).filter (·.tells adjustmentWords) =
      ([min, max].filter isAdjusted).map fun limit => f.adjustment limit (integerLimit limit) := by
  rw [limitReports_of_integral integral last, seen_events]
  · refine List.filter_eq_self.mpr fun e mem => ?_
    obtain ⟨limit, _, rfl⟩ := List.mem_map.mp mem
    rw [adjustment, Event.tells_of]
    exact beq_self_eq_true adjustmentWords
  · intro e mem
    obtain ⟨limit, _, rfl⟩ := List.mem_map.mp mem
    exact passes

/-! ## The law -/

/-- Of the limits of a slider over integers those are told, the lower one first, that are
not the same number as their literals, and not the first one beyond the integers. -/
theorem seen_adjustments {f : Field} (integral : f.type ∈ integralTypes) {min max : Single}
    (last : f.LastRange min max) (sink : Sink) {threshold : Level}
    (passes : threshold.passes .debug) : ∃ low high : Int,
      f.plan.body = .call (.ident "EditorGUILayout") "IntSlider"
        [Reference.property f, .int low, .int high, .ident (Reference.labelName f)] ∧
      (seen sink threshold f.planReports).filter (·.tells adjustmentWords) =
        ([(min, low), (max, high)].filter fun (limit, literal) =>
          ¬limit.IsInt literal ∧ ¬limit.IsInt (2 ^ 31)).map fun (limit, literal) =>
            f.adjustment limit literal := by
  refine ⟨_, _, body_plan_of_integral integral last, ?_⟩
  rw [planReports, seen_append, List.filter_append, filter_seen_annotationReports,
    filter_seen_limitReports integral last sink passes, List.nil_append]
  have pairs : [(min, integerLimit min), (max, integerLimit max)] =
      [min, max].map fun limit => (limit, integerLimit limit) := rfl
  rw [pairs, List.filter_map, List.map_map]
  refine congrArg (List.map _) (List.filter_congr fun limit _ => ?_)
  rw [Bool.eq_iff_iff]
  exact isAdjusted_iff.trans decide_eq_true_iff.symm

/-- A field with a slider over integers. -/
def speedometer (min max : Single) : Field where
  name := "speed"
  type := "int"
  visibility := .isPublic
  annotations := [.range min max]

theorem lastRange_speedometer (min max : Single) : (speedometer min max).LastRange min max :=
  ⟨[], [], rfl, by simp⟩

/-- Limits that are no integers are told, the lower one first. -/
theorem seen_adjustments_speedometer :
    (speedometer .nan (.infinite false)).type ∈ integralTypes ∧
    (speedometer .nan (.infinite false)).LastRange .nan (.infinite false) ∧
    Level.trace.passes .debug ∧
    (seen .forwarding .trace (speedometer .nan (.infinite false)).planReports).filter
        (·.tells adjustmentWords) =
      [(speedometer .nan (.infinite false)).adjustment .nan 0,
        (speedometer .nan (.infinite false)).adjustment (.infinite false) 2147483647] := by
  have integral : (speedometer .nan (.infinite false)).type ∈ integralTypes := by decide
  have last := lastRange_speedometer .nan (.infinite false)
  have passes : Level.trace.passes .debug := rfl
  obtain ⟨low, high, body, told⟩ := seen_adjustments integral last .forwarding passes
  obtain ⟨_, _, same⟩ := Expr.call.inj body
  cases same
  exact ⟨integral, last, passes, told⟩

/-- The first number beyond the integers is changed to the greatest of them, and nothing is
told of it. -/
theorem untold_speedometer :
    (speedometer (.ofInt 0) (.ofInt 2147483648)).type ∈ integralTypes ∧
    (speedometer (.ofInt 0) (.ofInt 2147483648)).LastRange (.ofInt 0) (.ofInt 2147483648) ∧
    (speedometer (.ofInt 0) (.ofInt 2147483648)).plan.body =
      .call (.ident "EditorGUILayout") "IntSlider"
        [Reference.property (speedometer (.ofInt 0) (.ofInt 2147483648)), .int 0, .int 2147483647,
          .ident "speedContent"] ∧
    ¬(Binary.ofInt 2147483648 : Single).IsInt 2147483647 ∧
    (seen .forwarding .debug (speedometer (.ofInt 0) (.ofInt 2147483648)).planReports).filter
      (·.tells adjustmentWords) = [] := by
  have integral : (speedometer (.ofInt 0) (.ofInt 2147483648)).type ∈ integralTypes := by decide
  have last := lastRange_speedometer (.ofInt 0) (.ofInt 2147483648)
  have low : integerLimit (.ofInt 0) = 0 := by decide +kernel
  have high : integerLimit (.ofInt 2147483648) = 2147483647 := by decide +kernel
  have none : [(.ofInt 0 : Single), .ofInt 2147483648].filter isAdjusted = [] := by decide +kernel
  have passes : Level.debug.passes .debug := rfl
  refine ⟨integral, last, ?_, not_isInt_greatest _, ?_⟩
  · rw [body_plan_of_integral integral last, low, high]
    rfl
  · rw [planReports, seen_append, List.filter_append, filter_seen_annotationReports,
      filter_seen_limitReports integral last .forwarding passes, none]
    rfl

end Field

end Inspector
