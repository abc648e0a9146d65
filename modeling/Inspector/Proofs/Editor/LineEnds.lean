import Inspector.Proofs.CSharp.Letters
import Inspector.Proofs.Editor.Expressions
import Inspector.Proofs.Editor.Names
import Inspector.Proofs.Naming.Shown

/-!
# The lines of an editor

An editor quotes the names of its fields, their display names, and the texts of
headings and tooltips. The names of an accepted target are on one line. The texts
are free: a newline or a carriage return in one of them is escaped, but the three
other ends of lines are written as they are, and then the literal is none
(`broken_literal_poster`).

**The law** (`Target.oneLine_iff`): nothing else breaks a line. In the rendered
editor of an accepted target no string literal holds the end of a line, and every
one is a regular string literal, and the text has the lines it was laid out in,
each exactly if the texts that its annotations show have no bare line end.
-/

namespace Inspector

open CSharp

namespace Annotation

/-- The text of a heading. -/
def header? : Annotation → Option String
  | header text => some text
  | _ => none

/-- The text that an annotation shows to the user of an editor. -/
def shownText? : Annotation → Option String
  | header text => some text
  | tooltip text => some text
  | _ => none

theorem shownText_eq_some_iff (a : Annotation) {text : String} :
    a.shownText? = some text ↔ a.header? = some text ∨ a.tooltip? = some text := by
  cases a <;> simp [shownText?, header?, tooltip?]

end Annotation

/-- The texts that the annotations of the selected fields show. -/
def Target.shownTexts (t : Target) : List String :=
  (Reference.selected t).flatMap fun f => f.annotations.filterMap (·.shownText?)

/-! ## String literals -/

namespace Field

theorem contents_label (f : Field) : Expr.contents f.labelMember.initial.toList =
    Naming.displayName f.name :: f.tooltip?.toList := by
  unfold labelMember
  cases f.tooltip? <;> rfl

theorem contents_leadStatements (f : Field) :
    Expr.contents f.leadStatements = f.annotations.filterMap (·.header?) := by
  unfold leadStatements
  induction f.annotations with
  | nil => rfl
  | cons a rest ih =>
    rw [List.filterMap_cons, List.filterMap_cons, ← ih]
    cases a <;> rfl

theorem contents_drawStatement (f : Field) : Expr.contents [f.drawStatement] = [f.name] := by
  unfold drawStatement
  split
  · split <;> rfl
  · rfl

theorem contents_statements (f : Field) : Expr.contents f.statements =
    f.annotations.filterMap (·.header?) ++ [f.name] := by
  rw [statements, Expr.contents_append, contents_leadStatements, contents_drawStatement]

end Field

namespace Target

variable {t : Target}

/-- What an editor quotes: the names of its fields, and the texts it shows. -/
theorem mem_contents_editor {value : String} : value ∈ t.editor.contents ↔
    ∃ f ∈ t.serializedFields, value = Naming.displayName f.name ∨ f.tooltip? = some value ∨
      (∃ a ∈ f.annotations, a.header? = some value) ∨ value = f.name := by
  have contents : t.editor.contents =
      t.serializedFields.flatMap (fun f => Expr.contents f.labelMember.initial.toList) ++
        t.serializedFields.flatMap (fun f => Expr.contents f.statements) := by
    show t.editor.parts.filterMap (·.content?) = _
    rw [parts_editor]
    simp [List.filterMap_flatMap, Expr.content?, Expr.contents, serializedObject]
  simp only [contents, Field.contents_label, Field.contents_statements, List.mem_append,
    List.mem_flatMap, List.mem_cons, List.mem_filterMap, Option.mem_toList, List.not_mem_nil,
    or_false]
  rw [← exists_or]
  refine exists_congr fun f => ?_
  rw [← and_or_left, or_assoc]

/-- The tooltip that decides is the only one. -/
theorem Acceptable.tooltip?_eq_some_iff (h : t.Acceptable) {f : Field} {text : String}
    (selected : f ∈ Reference.selected t) :
    f.tooltip? = some text ↔ ∃ a ∈ f.annotations, a.tooltip? = some text := by
  have valid := h.valid_of_selected f selected
  rw [← List.mem_filterMap, Field.filterMap_tooltip? valid, Field.tooltip?_eq valid,
    Option.mem_toList]

/-- The texts that annotations show are quoted. -/
theorem Acceptable.mem_contents_of_shown (h : t.Acceptable) {text : String}
    (shown : text ∈ t.shownTexts) : text ∈ t.editor.contents := by
  obtain ⟨f, selected, mem⟩ := List.mem_flatMap.mp shown
  obtain ⟨a, known, shown⟩ := List.mem_filterMap.mp mem
  refine mem_contents_editor.mpr ⟨f, serializedFields_eq t ▸ selected, ?_⟩
  rcases a.shownText_eq_some_iff.mp shown with header | hint
  · exact .inr (.inr (.inl ⟨a, known, header⟩))
  · exact .inr (.inl ((h.tooltip?_eq_some_iff selected).mpr ⟨a, known, hint⟩))

theorem Acceptable.onOneLine_contents_iff (h : t.Acceptable) :
    OnOneLine t.editor.contents ↔ OnOneLine t.shownTexts := by
  constructor
  · exact fun oneLine text shown => oneLine text (h.mem_contents_of_shown shown)
  · intro oneLine value mem
    obtain ⟨f, selected, origin⟩ := mem_contents_editor.mp mem
    have named : NameForm.simple.admits f.name := h.isIdentifier_of_mem selected
    have plain : ∀ c ∈ f.name.toList, c ∉ lineEnds :=
      fun c mem lineEnd => (foreign_of_lineEnd lineEnd).not_mem_name named mem
    rw [serializedFields_eq] at selected
    have shown {a : Annotation} (known : a ∈ f.annotations) (text : a.shownText? = some value) :
        ∀ c ∈ value.toList, c ∉ bareLineEnds :=
      oneLine value (List.mem_flatMap.mpr ⟨f, selected, List.mem_filterMap.mpr ⟨a, known, text⟩⟩)
    intro c mem bare
    rcases origin with rfl | hint | ⟨a, known, header⟩ | rfl
    · exact Naming.lineEnd_not_mem_displayName named c mem (lineEnd_of_bare bare)
    · obtain ⟨a, known, hint⟩ := (h.tooltip?_eq_some_iff selected).mp hint
      exact shown known (a.shownText_eq_some_iff.mpr (.inr hint)) c mem bare
    · exact shown known (a.shownText_eq_some_iff.mpr (.inl header)) c mem bare
    · exact plain c mem (lineEnd_of_bare bare)

theorem onOneLine_iff {texts : List String} :
    (∀ value ∈ texts, ∀ c ∈ lineEnds, c ∉ stringLiteral value) ↔ OnOneLine texts := by
  refine forall₂_congr fun value _ => ⟨fun free c mem bare => ?_, fun oneLine c lineEnd mem => ?_⟩
  · have lineEnd := lineEnd_of_bare bare
    exact free c lineEnd ((lineEnd_mem_stringLiteral_iff lineEnd).mpr ⟨bare, mem⟩)
  · obtain ⟨bare, mem⟩ := (lineEnd_mem_stringLiteral_iff lineEnd).mp mem
    exact oneLine c mem bare

/-! ## The law -/

/-- In the rendered editor of an accepted target no string literal holds a newline
or a carriage return. No literal holds the end of a line, and every literal is a
regular one, and the text has the lines it was laid out in, each exactly if the
texts that the annotations of the selected fields show have no bare line end. -/
theorem oneLine_iff (accepted : (Generation.build (some t) .initial).answer = .ok ()) :
    ∃ u text, (Generation.build (some t) .initial).request.held = some u ∧ u.render = .ok text ∧
      (∀ value ∈ u.contents, '\n' ∉ stringLiteral value ∧ '\r' ∉ stringLiteral value) ∧
      ((∀ value ∈ u.contents, ∀ c ∈ lineEnds, c ∉ stringLiteral value) ↔
        OnOneLine t.shownTexts) ∧
      ((∀ value ∈ u.contents, IsRegularLiteral (stringLiteral value)) ↔
        OnOneLine t.shownTexts) ∧
      (hostLines text.toList = Text.segments '\n' text.toList ↔ OnOneLine t.shownTexts) := by
  have acceptable := acceptable_of_build accepted
  have named := acceptable.wellNamed_editor
  have escaped {c : Char} (lineEnd : c ∈ lineEnds) (known : c ∉ bareLineEnds) (value : String) :
      c ∉ stringLiteral value :=
    fun mem => known ((lineEnd_mem_stringLiteral_iff lineEnd).mp mem).1
  rw [Generation.build_of_accept rfl acceptable.accept]
  refine ⟨t.editor, t.editor.text, rfl, CompilationUnit.render_of_wellNamed named, ?_, ?_, ?_, ?_⟩
  · exact fun value _ =>
      ⟨escaped (by decide) (by decide) value, escaped (by decide) (by decide) value⟩
  · rw [onOneLine_iff, acceptable.onOneLine_contents_iff]
  · rw [← acceptable.onOneLine_contents_iff]
    exact forall₂_congr fun value _ => isRegularLiteral_iff
  · rw [CompilationUnit.hostLines_text_iff named, acceptable.onOneLine_contents_iff]

/-- A target with every end of a line in a text that it shows or hides. -/
def signpost : Target where
  name := "Signpost"
  scope := some "Game"
  lineage := ["MonoBehaviour"]
  fields :=
    [⟨"m_text", "string", .nonPublic, [.serializeMarker, .header "one\ntwo", .tooltip "a\r\nb\""]⟩,
    ⟨"hidden", "int", .nonPublic, [.header "a\u2028b", .tooltip "\u0085\u2029"]⟩]

theorem oneLine_iff_signpost :
    (Generation.build (some signpost) .initial).answer = .ok () ∧
    ∃ u text, (Generation.build (some signpost) .initial).request.held = some u ∧
      u.render = .ok text ∧
      (∀ value ∈ u.contents, '\n' ∉ stringLiteral value ∧ '\r' ∉ stringLiteral value) ∧
      ((∀ value ∈ u.contents, ∀ c ∈ lineEnds, c ∉ stringLiteral value) ↔
        OnOneLine signpost.shownTexts) ∧
      ((∀ value ∈ u.contents, IsRegularLiteral (stringLiteral value)) ↔
        OnOneLine signpost.shownTexts) ∧
      (hostLines text.toList = Text.segments '\n' text.toList ↔ OnOneLine signpost.shownTexts) :=
  have accepted : (Generation.build (some signpost) .initial).answer = .ok () := rfl
  ⟨accepted, oneLine_iff accepted⟩

/-- A target with a line separator in a heading. -/
def poster : Target where
  name := "Poster"
  scope := none
  lineage := ["MonoBehaviour"]
  fields := [⟨"speed", "int", .isPublic, [.header "a\u2028b"]⟩]

/-- It is accepted, and in its editor a literal goes over the end of a line. -/
theorem broken_literal_poster :
    (Generation.build (some poster) .initial).answer = .ok () ∧
    ∃ u text, (Generation.build (some poster) .initial).request.held = some u ∧
      u.render = .ok text ∧
      (∃ value ∈ u.contents, '\u2028' ∈ stringLiteral value ∧
        ¬IsRegularLiteral (stringLiteral value)) ∧
      hostLines text.toList ≠ Text.segments '\n' text.toList := by
  have accepted : (Generation.build (some poster) .initial).answer = .ok () := rfl
  have named := (acceptable_of_build accepted).wellNamed_editor
  have broken : "a\u2028b" ∈ poster.editor.contents := by decide
  refine ⟨accepted, poster.editor, _, rfl, CompilationUnit.render_of_wellNamed named, ?_, ?_⟩
  · refine ⟨_, broken, by decide, fun regular => ?_⟩
    exact isRegularLiteral_iff.mp regular '\u2028' (by decide) (by decide)
  · intro same
    have oneLine := (CompilationUnit.hostLines_text_iff named).mp same
    exact oneLine _ broken '\u2028' (by decide) (by decide)

end Target

end Inspector
