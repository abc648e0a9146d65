import Inspector.Proofs.CSharp.Declarations
import Inspector.Proofs.CSharp.Filled

/-!
# Rendering loses nothing

The text of a source file tells its lines (`Line.flatMap_chars_cancel`), and the
lines tell their parts from the outside in: the imports up to the first line
that is no import, the namespace if the body starts with one, the attributes up
to the heading of the class, and the members between the empty lines.

**The law** (`CompilationUnit.render_injective`): well-named source files with
the same text are the same. Nothing is asked of the values of literals. All
values that are no number are one value here, so they are not told apart.
-/

namespace Inspector.CSharp

open Text

/-! ## Classes -/

namespace ClassDecl

theorem heading_eq (c : ClassDecl) : c.heading = c.access.text ++ ' ' ::
    ("class ".toList ++ (c.name.toList ++ ' ' :: (": ".toList ++ c.base.toList))) := by
  simp only [heading, List.append_assoc]
  rfl

theorem begins_heading (c : ClassDecl) : Begins c.heading := by
  rw [heading_eq]
  exact c.access.begins _

/-- The heading of a class tells its access, its name and its base. -/
theorem heading_cancel {c c' : ClassDecl} (named : WellNamed c.slots)
    (named' : WellNamed c'.slots) (h : c.heading = c'.heading) :
    c.access = c'.access ∧ c.name = c'.name ∧ c.base = c'.base := by
  obtain ⟨name, _⟩ := wellNamed_iff.mp named
  obtain ⟨name', _⟩ := wellNamed_iff.mp named'
  rw [heading_eq, heading_eq] at h
  obtain ⟨accesses, rest⟩ := marker_cancel (c.access.not_mem_text (by decide))
    (c'.access.not_mem_text (by decide)) h
  obtain ⟨names, rest⟩ := marker_cancel (NameForm.not_mem_of_admits name (by decide))
    (NameForm.not_mem_of_admits name' (by decide)) (List.append_cancel_left rest)
  exact ⟨Access.text_injective accesses, String.toList_inj.mp names,
    String.toList_inj.mp (List.append_cancel_left rest)⟩

/-- The heading of a class holds little but names. -/
theorem not_mem_heading {char : Char} (other : isHeadingChar char = false) {c : ClassDecl}
    (free : Free char c.slots) : char ∉ c.heading := by
  obtain ⟨name, base, _⟩ := forall_slots.mp free
  rw [heading_eq, List.mem_append, not_or]
  refine ⟨c.access.not_mem_text (not_isNameChar_of_not_heading other), ?_⟩
  have tail : char ∉ c.name.toList ++ ' ' :: (": ".toList ++ c.base.toList) :=
    not_mem_name_append other (s := [' ']) name (by decide)
      (not_mem_heading_append other (s := ": ".toList) (by decide) base)
  have word : char ∉ "class ".toList ++ (c.name.toList ++ ' ' :: (": ".toList ++ c.base.toList)) :=
    not_mem_heading_append other (s := "class ".toList) (by decide) tail
  exact not_mem_heading_append other (s := [' ']) (by decide) word

/-- The lines above the body of a class. -/
def opening (c : ClassDecl) : List Line :=
  c.attributes.map (fun a => .outer a.text) ++ [.outer c.heading]

theorem lines_eq (c : ClassDecl) :
    c.lines = Line.block c.opening (Line.separated (c.members.map (·.lines))) := rfl

theorem heading_cons (c : ClassDecl) : ∃ more, c.heading = 'p' :: more := by
  obtain ⟨more, text⟩ := c.access.text_cons
  exact ⟨_, by rw [heading_eq, text]; rfl⟩

/-- The first line of a class is an attribute or its heading. -/
theorem opening_cons (c : ClassDecl) : ∃ first text rest,
    c.opening = .outer (first :: text) :: rest ∧ first ∈ ['[', 'p'] := by
  cases attributes : c.attributes with
  | nil =>
    obtain ⟨more, heading⟩ := c.heading_cons
    exact ⟨'p', more, [], by simp [opening, attributes, heading], by decide⟩
  | cons a others =>
    refine ⟨'[', a.name.toList ++ a.tail, others.map (fun a => .outer a.text) ++ [.outer c.heading],
      ?_, by decide⟩
    rw [opening, attributes, List.map_cons, Attribute.text_eq]
    rfl

theorem brace_not_mem_opening (c : ClassDecl) : Line.outer ['{'] ∉ c.opening := by
  intro mem
  rcases List.mem_append.mp mem with mem | mem
  · obtain ⟨a, _, same⟩ := List.mem_map.mp mem
    exact a.begins.brace_ne_outer same.symm
  · exact c.begins_heading.brace_ne_outer (List.mem_singleton.mp mem)

theorem opening_cancel {c c' : ClassDecl} (named : WellNamed c.slots)
    (named' : WellNamed c'.slots) (h : c.opening = c'.opening) :
    c = { c' with members := c.members } := by
  obtain ⟨lines, headings⟩ := List.append_inj' h rfl
  obtain ⟨access, name, base⟩ :=
    heading_cancel named named' (Line.code.inj (List.cons.inj headings).1).2
  obtain ⟨_, _, attributes, _⟩ := wellNamed_iff.mp named
  obtain ⟨_, _, attributes', _⟩ := wellNamed_iff.mp named'
  have same : c.attributes = c'.attributes := by
    refine map_cancel (fun a ha a' ha' line => ?_) lines
    exact Attribute.text_cancel (attributes a ha) (attributes' a' ha') (Line.code.inj line).2
  cases c
  cases access
  cases name
  cases base
  cases same
  rfl

/-- The lines of a class tell the class. -/
theorem lines_cancel {c c' : ClassDecl} (named : WellNamed c.slots)
    (named' : WellNamed c'.slots) (h : c.lines = c'.lines) : c = c' := by
  obtain ⟨openings, groups⟩ :=
    Line.block_cancel c.brace_not_mem_opening c'.brace_not_mem_opening h
  have opening := opening_cancel named named' openings
  have full (members : List Member) :
      ∀ g ∈ members.map (·.lines), g ≠ [] ∧ .empty ∉ g := by
    intro g hg
    obtain ⟨m, _, rfl⟩ := List.mem_map.mp hg
    exact m.lines_full
  obtain ⟨_, _, _, members⟩ := wellNamed_iff.mp named
  obtain ⟨_, _, _, members'⟩ := wellNamed_iff.mp named'
  have same : c.members = c'.members := by
    refine map_cancel (fun m hm m' hm' lines => ?_)
      (Line.separated_cancel (full _) (full _) groups)
    exact Member.lines_cancel (members m hm) (members' m' hm') lines
  rw [opening, same]

theorem tidy_lines {c : ClassDecl} (named : WellNamed c.slots) : ∀ l ∈ c.lines, l.Tidy := by
  have heading := not_mem_heading foreign_newline.not_heading (foreign_newline.free named)
  obtain ⟨_, _, attributes, members⟩ := wellNamed_iff.mp named
  refine Line.tidy_block (fun l hl => ?_) (Line.tidy_separated fun g hg => ?_)
  · rcases List.mem_append.mp hl with hl | hl
    · obtain ⟨a, ha, rfl⟩ := List.mem_map.mp hl
      exact a.begins.tidy_outer
        (mt (Attribute.mem_text_iff foreign_newline (foreign_newline.free (attributes a ha))).mp
          (Expr.newline_not_quoted _))
    · rw [List.mem_singleton.mp hl]
      exact c.begins_heading.tidy_outer heading
  · obtain ⟨m, hm, rfl⟩ := List.mem_map.mp hg
    exact Member.tidy_lines (members m hm)

end ClassDecl

/-! ## Imports -/

/-- Whether a line could be an import. -/
def isImportLine : Line → Bool
  | .code 0 ('u' :: _) => true
  | _ => false

theorem importText_eq (name : String) :
    importText name = "using ".toList ++ (name.toList ++ [';']) := rfl

theorem begins_importText (name : String) : Begins (importText name) :=
  begins_cons (c := 'u') (by decide) _

/-- The line of an import holds little but its name. -/
theorem not_mem_importText {c : Char} (other : isHeadingChar c = false) {name : String}
    (free : c ∉ name.toList) : c ∉ importText name := by
  have tail : c ∉ name.toList ++ [';'] :=
    not_mem_name_append other (s := [';']) free (by decide) List.not_mem_nil
  exact not_mem_heading_append other (s := "using ".toList) (by decide) tail

theorem importText_injective : Function.Injective importText := by
  intro name name' same
  rw [importText_eq, importText_eq] at same
  exact String.toList_inj.mp (List.append_cancel_right (List.append_cancel_left same))

/-- The lines of the imports, with the line behind them if there are any. -/
def importLines (imports : List String) : List Line :=
  imports.map (fun name => .outer (importText name)) ++ (if imports.isEmpty then [] else [.empty])

theorem preludeLines_eq (imports : List String) : preludeLines imports =
    banner.map (fun line => .outer line.toList) ++ .empty :: importLines imports := rfl

/-- The imports last up to the first line that could not be one. -/
theorem importLines_cancel {imports imports' : List String} {lines lines' : List Line}
    (stop : Stops isImportLine lines) (stop' : Stops isImportLine lines')
    (h : importLines imports ++ lines = importLines imports' ++ lines') :
    imports = imports' ∧ lines = lines' := by
  have all (imports : List String) :
      ∀ l ∈ imports.map (fun name => Line.outer (importText name)), isImportLine l := by
    intro l hl
    obtain ⟨name, _, rfl⟩ := List.mem_map.mp hl
    rfl
  have gap {lines : List Line} (imports : List String) (stop : Stops isImportLine lines) :
      Stops isImportLine ((if imports.isEmpty then [] else [.empty]) ++ lines) := by
    cases imports with
    | nil => exact stop
    | cons => exact stops_cons (a := Line.empty) rfl _
  simp only [importLines, List.append_assoc] at h
  obtain ⟨texts, rest⟩ := run_cancel (all _) (all _) (gap _ stop) (gap _ stop') h
  have same : imports = imports' := by
    refine map_cancel (fun name _ name' _ line => ?_) texts
    exact importText_injective (Line.code.inj line).2
  rw [same] at rest
  exact ⟨same, List.append_cancel_left rest⟩

theorem tidy_importLines {imports : List String} (h : ∀ name ∈ imports, '\n' ∉ name.toList) :
    ∀ l ∈ importLines imports, l.Tidy := by
  intro l hl
  rcases List.mem_append.mp hl with hl | hl
  · obtain ⟨name, mem, rfl⟩ := List.mem_map.mp hl
    exact (begins_importText name).tidy_outer
      (not_mem_importText foreign_newline.not_heading (h name mem))
  · cases imports with
    | nil => cases hl
    | cons =>
      rw [List.mem_singleton.mp hl]
      trivial

/-- The banner is a comment in each of its lines, in printable characters without quotes. -/
theorem banner_comments : ∀ text ∈ banner,
    text.toList.head? = some '/' ∧ text.toList.all fun c => isPrintable c && c != '"' := by
  decide +kernel

theorem begins_of_mem_banner {text : String} (h : text ∈ banner) : Begins text.toList := by
  obtain ⟨more, text⟩ := List.head?_eq_some_iff.mp (banner_comments text h).1
  rw [text]
  exact begins_cons (by decide) more

theorem printable_of_mem_banner {text : String} (h : text ∈ banner) :
    text.toList.all isPrintable := by
  have shown := (banner_comments text h).2
  simp only [List.all_eq_true, Bool.and_eq_true] at shown ⊢
  exact fun c mem => (shown c mem).1

theorem quote_not_mem_of_mem_banner {text : String} (h : text ∈ banner) : '"' ∉ text.toList := by
  intro mem
  exact absurd (List.all_eq_true.mp (banner_comments text h).2 '"' mem) (by decide)

theorem tidy_preludeLines {imports : List String} (h : ∀ name ∈ imports, '\n' ∉ name.toList) :
    ∀ l ∈ preludeLines imports, l.Tidy := by
  intro l hl
  rw [preludeLines_eq] at hl
  rcases List.mem_append.mp hl with hl | hl
  · obtain ⟨text, mem, rfl⟩ := List.mem_map.mp hl
    exact (begins_of_mem_banner mem).tidy_outer
      (foreign_newline.not_mem (printable_of_mem_banner mem))
  · rcases List.mem_cons.mp hl with rfl | hl
    · trivial
    · exact tidy_importLines h l hl

/-! ## Files -/

namespace CompilationUnit

/-- The first line of a namespace. -/
def scopeText (scope : String) : List Char :=
  "namespace ".toList ++ scope.toList

theorem begins_scopeText (scope : String) : Begins (scopeText scope) :=
  begins_cons (c := 'n') (by decide) _

/-- The first line of a namespace holds little but its name. -/
theorem not_mem_scopeText {c : Char} (other : isHeadingChar c = false) {scope : String}
    (free : c ∉ scope.toList) : c ∉ scopeText scope :=
  not_mem_heading_append other (s := "namespace ".toList) (by decide) free

theorem bodyLines_of_none {u : CompilationUnit} (scope : u.scope = none) :
    u.bodyLines = u.cls.lines := by
  rw [bodyLines, scope]

theorem bodyLines_of_some {u : CompilationUnit} {name : String} (scope : u.scope = some name) :
    u.bodyLines = Line.block [.outer (scopeText name)] u.cls.lines := by
  rw [bodyLines, scope]
  rfl

/-- The body of a file starts with an attribute, the heading of its class or its
namespace. -/
theorem bodyLines_cons (u : CompilationUnit) : ∃ first text rest,
    u.bodyLines = .outer (first :: text) :: rest ∧
      if u.scope.isSome then first = 'n' else first ∈ ['[', 'p'] := by
  cases scope : u.scope with
  | some name =>
    exact ⟨'n', "amespace ".toList ++ name.toList, _, bodyLines_of_some scope, rfl⟩
  | none =>
    obtain ⟨first, text, rest, opening, mem⟩ := u.cls.opening_cons
    simp only [bodyLines_of_none scope, ClassDecl.lines_eq, Line.block, opening, List.cons_append]
    exact ⟨first, text, _, rfl, mem⟩

theorem stops_bodyLines (u : CompilationUnit) : Stops isImportLine u.bodyLines := by
  obtain ⟨first, text, rest, lines, shape⟩ := u.bodyLines_cons
  have other : first ≠ 'u' := by
    rintro rfl
    cases scope : u.scope.isSome <;> rw [scope] at shape <;> exact absurd shape (by decide)
  rw [lines]
  refine stops_cons ?_ rest
  unfold isImportLine
  split
  next same =>
    cases same
    exact (other rfl).elim
  next => rfl

/-- The lines of the body tell the namespace and the class. -/
theorem bodyLines_cancel {u v : CompilationUnit} (named : WellNamed u.cls.slots)
    (named' : WellNamed v.cls.slots) (h : u.bodyLines = v.bodyLines) :
    u.scope = v.scope ∧ u.cls = v.cls := by
  have brace (scope : String) : Line.outer ['{'] ∉ [Line.outer (scopeText scope)] := by
    rw [List.mem_singleton]
    exact (begins_scopeText scope).brace_ne_outer
  have alike : u.scope.isSome = v.scope.isSome := by
    obtain ⟨first, _, _, lines, shape⟩ := u.bodyLines_cons
    obtain ⟨first', _, _, lines', shape'⟩ := v.bodyLines_cons
    rw [lines, lines'] at h
    cases (List.cons.inj (Line.code.inj (List.cons.inj h).1).2).1
    cases own : u.scope.isSome <;> cases other : v.scope.isSome <;> rw [own] at shape <;>
      rw [other] at shape'
    case false.true => rw [shape'] at shape; exact absurd shape (by decide)
    case true.false => rw [shape] at shape'; exact absurd shape' (by decide)
  cases own : u.scope <;> cases other : v.scope <;> rw [own, other] at alike
  case none.some | some.none => cases alike
  case none.none =>
    rw [bodyLines_of_none own, bodyLines_of_none other] at h
    exact ⟨rfl, ClassDecl.lines_cancel named named' h⟩
  case some.some scope scope' =>
    rw [bodyLines_of_some own, bodyLines_of_some other] at h
    obtain ⟨headings, bodies⟩ := Line.block_cancel (brace scope) (brace scope') h
    have names := List.append_cancel_left (Line.code.inj (List.cons.inj headings).1).2
    exact ⟨by rw [String.toList_inj.mp names], ClassDecl.lines_cancel named named' bodies⟩

theorem tidy_lines {u : CompilationUnit} (named : WellNamed u.slots) :
    ∀ l ∈ u.lines, l.Tidy := by
  obtain ⟨outer, imports, cls⟩ := wellNamed_iff.mp named
  have cls := ClassDecl.tidy_lines cls
  intro l hl
  rcases List.mem_append.mp hl with hl | hl
  · refine tidy_preludeLines (fun name mem => ?_) l hl
    exact NameForm.not_mem_of_admits (imports name mem) (by decide)
  · cases scope : u.scope with
    | none =>
      rw [bodyLines_of_none scope] at hl
      exact cls l hl
    | some name =>
      have free : '\n' ∉ name.toList := foreign_newline.not_mem_name (outer name (by simp [scope]))
      rw [bodyLines_of_some scope] at hl
      refine Line.tidy_block (fun l hl => ?_) cls l hl
      rw [List.mem_singleton.mp hl]
      exact (begins_scopeText name).tidy_outer
        (not_mem_scopeText foreign_newline.not_heading free)

/-- The lines of a file tell the file. -/
theorem lines_cancel {u v : CompilationUnit} (named : WellNamed u.slots)
    (named' : WellNamed v.slots) (h : u.lines = v.lines) : u = v := by
  rw [lines, lines, preludeLines_eq, preludeLines_eq, List.append_assoc, List.append_assoc] at h
  obtain ⟨imports, bodies⟩ := importLines_cancel u.stops_bodyLines v.stops_bodyLines
    (List.cons.inj (List.append_cancel_left h)).2
  obtain ⟨_, _, cls⟩ := wellNamed_iff.mp named
  obtain ⟨_, _, cls'⟩ := wellNamed_iff.mp named'
  obtain ⟨scope, same⟩ := bodyLines_cancel cls cls' bodies
  cases u
  cases scope
  cases imports
  cases same
  rfl

theorem text_cancel {u v : CompilationUnit} (named : WellNamed u.slots)
    (named' : WellNamed v.slots) (h : u.text = v.text) : u = v :=
  lines_cancel named named'
    (Line.flatMap_chars_cancel (tidy_lines named) (tidy_lines named') (String.ofList_injective h))

/-- Rendering loses nothing. -/
theorem render_injective {u v : CompilationUnit} (hu : WellNamed u.slots) (hv : WellNamed v.slots)
    (h : u.render = v.render) : u = v := by
  rw [render_of_wellNamed hu, render_of_wellNamed hv] at h
  exact text_cancel hu hv (Except.ok.inj h)

/-- A class in a namespace, with a field and a method. -/
def panel (imports : List String) : CompilationUnit :=
  .of (some "Game.Editor") imports
    { access := .isPublic
      name := "Panel"
      base := "Game.Base"
      attributes := [⟨"Shown", [.typeOf "Game.Door"]⟩]
      members :=
        [.field ⟨.isPrivate, "Rect", "area",
          some (.create "Rect" [.int (-1), .str "a\", b", .float .nan])⟩,
        .method ⟨.isPublic, true, "void", "Draw",
          [.call (.member (.ident "area") "size") "Show" [.str "\n", .call (.ident "x") "y" []]]⟩] }

/-- An import given twice is there once. -/
theorem render_injective_panel : WellNamed (panel ["Game", "Game"]).slots ∧
    WellNamed (panel ["Game"]).slots ∧ (panel ["Game", "Game"]).render = (panel ["Game"]).render ∧
    panel ["Game", "Game"] = panel ["Game"] :=
  have hu : WellNamed (panel ["Game", "Game"]).slots := by decide +kernel
  have hv : WellNamed (panel ["Game"]).slots := by decide +kernel
  have h : (panel ["Game", "Game"]).render = (panel ["Game"]).render := rfl
  ⟨hu, hv, h, render_injective hu hv h⟩

end CompilationUnit

end Inspector.CSharp
