import Inspector.Description.Read
import Inspector.Proofs.Description.Limits
import Inspector.Proofs.Editor.Expressions
import Inspector.Proofs.Generation.Verdict
import Inspector.Proofs.Number.Order

/-!
# The sliders of an editor

A range on a field becomes a slider with its limits, over integers if the type of
the field is one of theirs. A description is refused if it has a range whose upper
limit is less than the lower one, and dropping fractions keeps the order of numbers,
so the limits of a slider are in order if they are numbers.

One of the formats has a way to write not-a-number, and such a limit is less than
nothing. It comes through the comparison, and becomes zero in a slider over integers,
which may be the wrong side of the other limit (`inverted_slider_kart`).

**The law** (`Target.sliders_ordered_iff`): that is the only case. In the editor of
every described and accepted target the limits of a slider are in order exactly if
both are numbers, or, in a slider over integers, the other one is on the right side
of zero.
-/

namespace Inspector

open CSharp Number

/-- Whether an expression makes a slider. -/
def CSharp.Expr.isSlider : Expr → Bool
  | .call _ method _ => method ∈ ["IntSlider", "Slider"]
  | _ => false

/-! ## Where sliders come from -/

namespace Field

theorem range_mem_of_limits {f : Field} {min max : Single} (limits : f.limits? = some (min, max)) :
    .range min max ∈ f.annotations := by
  obtain ⟨a, known, own⟩ := List.mem_filterMap.mp (List.mem_of_getLast? limits)
  cases a <;> cases own
  exact known

theorem sliders_label (f : Field) :
    (Expr.listParts f.labelMember.initial.toList).filter (·.isSlider) = [] := by
  unfold labelMember
  cases f.tooltip? <;> rfl

theorem sliders_leadStatements (f : Field) :
    (Expr.listParts f.leadStatements).filter (·.isSlider) = [] := by
  unfold leadStatements
  induction f.annotations with
  | nil => rfl
  | cons a rest ih =>
    rw [List.filterMap_cons]
    cases a <;> exact ih

theorem sliders_drawStatement (f : Field) :
    (Expr.listParts [f.drawStatement]).filter (·.isSlider) =
      [f.drawStatement].filter (·.isSlider) := by
  unfold drawStatement
  split
  · split <;> rfl
  · rfl

theorem sliders_statements (f : Field) :
    (Expr.listParts f.statements).filter (·.isSlider) =
      [f.drawStatement].filter (·.isSlider) := by
  rw [statements, Expr.listParts_append, List.filter_append, sliders_leadStatements,
    sliders_drawStatement, List.nil_append]

end Field

/-- The sliders of an editor are the statements that draw fields, where they are
sliders. -/
theorem Target.sliders_editor (t : Target) : t.editor.parts.filter (·.isSlider) =
    (t.serializedFields.map (·.drawStatement)).filter (·.isSlider) := by
  have typeObject : (Expr.typeOf t.qualifiedName).isSlider = false := rfl
  have object : serializedObject.isSlider = false := rfl
  have update : (Expr.call serializedObject "Update" []).isSlider = false := rfl
  have apply : (Expr.call serializedObject "ApplyModifiedProperties" []).isSlider = false := rfl
  rw [parts_editor, List.map_eq_flatMap, List.filter_flatMap]
  simp [List.filter_flatMap, Field.sliders_label, Field.sliders_statements, typeObject, object,
    update, apply]

/-- The statement that draws a field is a slider only with the limits of a range. -/
theorem Field.range_of_isSlider {f : Field} (slider : f.drawStatement.isSlider) :
    ∃ min max, .range min max ∈ f.annotations ∧
      (f.drawStatement = .call editorLayout "IntSlider" [f.property, .int (integerLimit min),
          .int (integerLimit max), .ident f.labelName] ∨
        f.drawStatement = .call editorLayout "Slider" [f.property, .float min, .float max,
          .ident f.labelName]) := by
  cases limits : f.limits? with
  | none => simp [drawStatement, limits, Expr.isSlider] at slider
  | some both =>
    refine ⟨both.1, both.2, range_mem_of_limits limits, ?_⟩
    by_cases integral : f.isIntegral <;> simp [drawStatement, limits, integral]

/-! ## Limits -/

theorem atMost_limits_iff {min max : Single} (ordered : max.lt min = false) :
    min.AtMost max ↔ min ≠ .nan ∧ max ≠ .nan := by
  rw [Binary.atMost_iff (by decide)]
  simp [ordered]

theorem integerLimit_le_iff {min max : Single} (ordered : max.lt min = false) :
    integerLimit min ≤ integerLimit max ↔
      (min = .nan → 0 ≤ integerLimit max) ∧ (max = .nan → integerLimit min ≤ 0) := by
  have none : integerLimit .nan = 0 := rfl
  by_cases low : min = .nan
  · simp [low, none]
  · by_cases high : max = .nan
    · simp [low, high, none]
    · have numbers : min.AtMost max := (atMost_limits_iff ordered).mpr ⟨low, high⟩
      refine iff_of_true ?_ ⟨fun same => absurd same low, fun same => absurd same high⟩
      exact Binary.truncate_mono (by decide) numbers

/-! ## The law -/

namespace Target

/-- In the editor of a described and accepted target the limits of a slider over
integers are in order exactly if the other limit of one that is no number is on the
right side of zero, and the limits of any other slider exactly if both are numbers. -/
theorem sliders_ordered_iff {d : Description} {t : Target} (described : d.toTarget = .ok t)
    (accepted : (Generation.build (some t) .initial).answer = .ok ()) :
    ∃ u, (Generation.build (some t) .initial).request.held = some u ∧
      (∀ target args, .call target "IntSlider" args ∈ u.parts →
        ∃ f ∈ t.serializedFields, ∃ min max, .range min max ∈ f.annotations ∧
          args = [f.property, .int (integerLimit min), .int (integerLimit max),
            .ident f.labelName] ∧
          (integerLimit min ≤ integerLimit max ↔
            (min = .nan → 0 ≤ integerLimit max) ∧ (max = .nan → integerLimit min ≤ 0))) ∧
      (∀ target args, .call target "Slider" args ∈ u.parts →
        ∃ f ∈ t.serializedFields, ∃ min max, .range min max ∈ f.annotations ∧
          args = [f.property, .float min, .float max, .ident f.labelName] ∧
          (min.AtMost max ↔ min ≠ .nan ∧ max ≠ .nan)) := by
  have accept := (acceptable_of_build accepted).accept
  rw [Generation.build_of_accept rfl accept]
  have source {e : Expr} (part : e ∈ t.editor.parts) (slider : e.isSlider) :
      ∃ f ∈ t.serializedFields, f.drawStatement = e := by
    have mem := List.mem_filter.mpr ⟨part, slider⟩
    rw [sliders_editor] at mem
    exact List.mem_map.mp (List.mem_filter.mp mem).1
  have ordered {f : Field} (selected : f ∈ t.serializedFields) {min max : Single}
      (range : .range min max ∈ f.annotations) : max.lt min = false :=
    Description.limits_ordered described (List.mem_filter.mp selected).1 range
  refine ⟨t.editor, rfl, fun target args part => ?_, fun target args part => ?_⟩
  · obtain ⟨f, selected, draws⟩ := source part rfl
    obtain ⟨min, max, range, shape | shape⟩ := Field.range_of_isSlider (f := f) (draws ▸ rfl)
    · obtain ⟨_, _, same⟩ := Expr.call.inj (draws.symm.trans shape)
      exact ⟨f, selected, min, max, range, same, integerLimit_le_iff (ordered selected range)⟩
    · obtain ⟨_, other, _⟩ := Expr.call.inj (draws.symm.trans shape)
      exact absurd other (by decide)
  · obtain ⟨f, selected, draws⟩ := source part rfl
    obtain ⟨min, max, range, shape | shape⟩ := Field.range_of_isSlider (f := f) (draws ▸ rfl)
    · obtain ⟨_, other, _⟩ := Expr.call.inj (draws.symm.trans shape)
      exact absurd other (by decide)
    · obtain ⟨_, _, same⟩ := Expr.call.inj (draws.symm.trans shape)
      exact ⟨f, selected, min, max, range, same, atMost_limits_iff (ordered selected range)⟩

/-- A description with ranges of either kind, and with limits that are no numbers. -/
def gauge : Description where
  name := "Gauge"
  scope := some "Game"
  lineage := ["MonoBehaviour"]
  fields :=
    [⟨"level", "int", .isPublic, [⟨"range", none, none, some (.ofInt (-1)), some (.ofInt 3)⟩]⟩,
    ⟨"depth", "long", .isPublic, [⟨"range", none, none, some .nan, some (.infinite false)⟩]⟩,
    ⟨"heat", "float", .isPublic, [⟨"range", none, none, some (.ofInt 2), some .nan⟩]⟩]

/-- The target that it describes. -/
def gaugeTarget : Target where
  name := "Gauge"
  scope := some "Game"
  lineage := ["MonoBehaviour"]
  fields :=
    [⟨"level", "int", .isPublic, [.range (.ofInt (-1)) (.ofInt 3)]⟩,
    ⟨"depth", "long", .isPublic, [.range .nan (.infinite false)]⟩,
    ⟨"heat", "float", .isPublic, [.range (.ofInt 2) .nan]⟩]

theorem sliders_ordered_iff_gauge :
    gauge.toTarget = .ok gaugeTarget ∧
    (Generation.build (some gaugeTarget) .initial).answer = .ok () ∧
    ∃ u, (Generation.build (some gaugeTarget) .initial).request.held = some u ∧
      (∀ target args, .call target "IntSlider" args ∈ u.parts →
        ∃ f ∈ gaugeTarget.serializedFields, ∃ min max, .range min max ∈ f.annotations ∧
          args = [f.property, .int (integerLimit min), .int (integerLimit max),
            .ident f.labelName] ∧
          (integerLimit min ≤ integerLimit max ↔
            (min = .nan → 0 ≤ integerLimit max) ∧ (max = .nan → integerLimit min ≤ 0))) ∧
      (∀ target args, .call target "Slider" args ∈ u.parts →
        ∃ f ∈ gaugeTarget.serializedFields, ∃ min max, .range min max ∈ f.annotations ∧
          args = [f.property, .float min, .float max, .ident f.labelName] ∧
          (min.AtMost max ↔ min ≠ .nan ∧ max ≠ .nan)) :=
  have described : gauge.toTarget = .ok gaugeTarget := rfl
  have accepted : (Generation.build (some gaugeTarget) .initial).answer = .ok () := rfl
  ⟨described, accepted, sliders_ordered_iff described accepted⟩

/-- A description whose only range has a lower limit that is no number. -/
def kartText : String :=
  "name = \"Kart\"\nlineage = [\"MonoBehaviour\"]\n[[fields]]\nname = \"speed\"\n" ++
    "type = \"int\"\nannotations = [\x7b kind = \"range\", min = nan, max = -5 \x7d]\n"

/-- The target that it describes. -/
def kart : Target where
  name := "Kart"
  scope := none
  lineage := ["MonoBehaviour"]
  fields := [⟨"speed", "int", .isPublic, [.range .nan (.ofInt (-5))]⟩]

/-- It is loaded and accepted, and its slider goes from zero down to minus five. -/
theorem inverted_slider_kart :
    (Target.load .toml kartText).toOption = some kart ∧
    (Generation.build (some kart) .initial).answer = .ok () ∧
    ∃ u, (Generation.build (some kart) .initial).request.held = some u ∧
      ∃ target property label,
        .call target "IntSlider" [property, .int 0, .int (-5), label] ∈ u.parts := by
  refine ⟨by decide +kernel, rfl, kart.editor, rfl, editorLayout,
    .call serializedObject "FindProperty" [.str "speed"], .ident "speedContent", ?_⟩
  have drawn : kart.serializedFields.map (·.drawStatement) = [.call editorLayout "IntSlider"
      [.call serializedObject "FindProperty" [.str "speed"], .int 0, .int (-5),
        .ident "speedContent"]] := rfl
  apply List.mem_of_mem_filter
  rw [sliders_editor, drawn]
  exact List.mem_filter.mpr ⟨List.mem_cons_self, rfl⟩

end Target

end Inspector
