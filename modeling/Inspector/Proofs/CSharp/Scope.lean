import Inspector.Proofs.CSharp.Letters

/-!
# A namespace only indents

A class has the same lines with and without a namespace around it, only one level
deeper. In the text this is seen line by line: a line that is not empty has four more
spaces before it (`indented`), and the others stay empty.

**The law** (`CompilationUnit.render_scoped`): the file with a namespace is the file
without it, with the class indented and put in the block of the namespace. What is
asked is that the names of the class, at any depth, are not empty and stay on their
line; then the text has just the lines that were laid out, for no string literal ends
a line. Nothing is asked of the imports and of the namespace.
-/

namespace Inspector.CSharp

open Text

/-! ## Indented text -/

/-- A text with four spaces before each of its lines that is not empty. -/
def indented (text : List Char) : List Char :=
  List.intercalate ['\n'] ((segments '\n' text).map fun line =>
    if line = [] then [] else "    ".toList ++ line)

/-- The text above a class: the banner, an empty line, and the imports with an empty
line behind them, if there are any. -/
def preludeText (imports : List String) : List Char :=
  banner.flatMap (fun line => line.toList ++ ['\n']) ++ '\n' ::
    imports.flatMap (fun name => "using ".toList ++ name.toList ++ [';', '\n']) ++
    if imports = [] then [] else ['\n']

namespace Line

/-- Code that shows something, on its line. -/
def Whole (line : Line) : Prop :=
  '\n' ∉ line.letters ∧ (line ≠ .empty → line.letters ≠ [])

theorem newline_not_mem_of_whole {line : Line} (h : line.Whole) : '\n' ∉ line.visible := by
  cases line with
  | empty => exact List.not_mem_nil
  | code depth text =>
    rw [visible, List.mem_append, not_or]
    refine ⟨fun mem => ?_, h.1⟩
    exact absurd (List.eq_of_mem_replicate mem) (by decide)

theorem visible_deeper {line : Line} (h : line.Whole) :
    line.deeper.visible = if line.visible = [] then [] else "    ".toList ++ line.visible := by
  cases line with
  | empty => rfl
  | code depth text =>
    have some : text ≠ [] := h.2 (by simp)
    have four : List.replicate (4 * (depth + 1)) ' ' =
        "    ".toList ++ List.replicate (4 * depth) ' ' := by
      rw [Nat.mul_succ, Nat.add_comm, ← List.replicate_append_replicate]
      rfl
    rw [visible, if_neg (by simp [some]), ← List.append_assoc, ← four]
    rfl

/-- Lines one level deeper are their text indented. -/
theorem indented_flatMap_chars {lines : List Line} (whole : ∀ l ∈ lines, l.Whole) :
    indented (lines.flatMap chars) = (lines.map deeper).flatMap chars := by
  have each : (lines.map visible).map (fun line =>
      if line = [] then [] else "    ".toList ++ line) = (lines.map deeper).map visible := by
    rw [List.map_map, List.map_map]
    exact List.map_congr_left fun line mem => (visible_deeper (whole line mem)).symm
  rw [indented, segments_flatMap_chars fun line mem => newline_not_mem_of_whole (whole line mem),
    List.map_append, each, List.map_singleton, if_pos rfl, intercalate_ended, flatMap_chars_eq]

end Line

theorem flatMap_chars_outer {α : Type} (xs : List α) (f : α → List Char) :
    (xs.map fun x => Line.outer (f x)).flatMap Line.chars = xs.flatMap fun x => f x ++ ['\n'] := by
  rw [List.flatMap_map]
  rfl

theorem flatMap_chars_preludeLines (imports : List String) :
    (preludeLines imports).flatMap Line.chars = preludeText imports := by
  have line (name : String) : importText name ++ ['\n'] =
      "using ".toList ++ name.toList ++ [';', '\n'] := by
    rw [importText_eq, List.append_assoc, List.append_assoc, List.append_assoc]
    rfl
  have gap : (if imports.isEmpty then [] else [Line.empty]).flatMap Line.chars =
      if imports = [] then [] else ['\n'] := by
    cases imports <;> rfl
  rw [preludeLines_eq, importLines, List.flatMap_append, List.flatMap_cons, List.flatMap_append,
    gap, flatMap_chars_outer, flatMap_chars_outer, preludeText, funext line, List.append_assoc]
  rfl

/-! ## The lines of a class -/

theorem Member.letters_ne_nil (m : Member) : ∀ l ∈ m.lines, l.letters ≠ [] := by
  cases m with
  | field f =>
    intro l mem
    rw [List.mem_singleton.mp mem]
    exact f.begins.ne_nil
  | method m =>
    refine Line.forall_block ?_ ?_ (List.cons_ne_nil _ _) (List.cons_ne_nil _ _)
    · intro l mem
      rw [List.mem_singleton.mp mem]
      exact m.begins_signature.ne_nil
    · intro l mem
      obtain ⟨e, _, rfl⟩ := List.mem_map.mp mem
      exact List.append_ne_nil_of_right_ne_nil _ (List.cons_ne_nil _ _)

namespace ClassDecl

theorem letters_ne_nil (c : ClassDecl) : ∀ l ∈ c.lines, l ≠ .empty → l.letters ≠ [] := by
  rw [lines_eq]
  refine Line.forall_block (fun l mem _ => ?_) ?_ (fun _ => List.cons_ne_nil _ _)
    (fun _ => List.cons_ne_nil _ _)
  · rcases List.mem_append.mp mem with mem | mem
    · obtain ⟨a, _, rfl⟩ := List.mem_map.mp mem
      exact a.begins.ne_nil
    · rw [List.mem_singleton.mp mem]
      exact c.begins_heading.ne_nil
  · refine Line.forall_separated (fun group mem l held _ => ?_) fun shown => absurd rfl shown
    obtain ⟨m, _, rfl⟩ := List.mem_map.mp mem
    rw [Line.letters_deeper]
    exact m.letters_ne_nil l held

theorem whole_lines {c : ClassDecl} (free : Free '\n' c.slots) : ∀ l ∈ c.lines, l.Whole := by
  intro l mem
  refine ⟨fun newline => ?_, c.letters_ne_nil l mem⟩
  have held := (mem_lines_iff foreign_newline free).mp (List.mem_flatMap_of_mem mem newline)
  exact Expr.newline_not_quoted _ held

end ClassDecl

/-! ## The law -/

namespace CompilationUnit

theorem text_of (scope : Option String) (imports : List String) (c : ClassDecl) :
    (of scope imports c).text = String.ofList (preludeText (firstOccurrences imports) ++
      (of scope imports c).bodyLines.flatMap Line.chars) := by
  rw [text, lines, List.flatMap_append, flatMap_chars_preludeLines]
  rfl

/-- The file of a class in a namespace is its file without one, with the class indented
and put between braces under the namespace. -/
theorem render_scoped {c : ClassDecl}
    (named : ∀ slot ∈ c.slots, slot.2 ≠ "" ∧ '\n' ∉ slot.2.toList) (imports : List String)
    (scope : String) : ∃ body,
      (of none imports c).render =
        .ok (String.ofList (preludeText (firstOccurrences imports) ++ body)) ∧
      (of (some scope) imports c).render =
        .ok (String.ofList (preludeText (firstOccurrences imports) ++
          ("namespace ".toList ++ scope.toList ++ ['\n'] ++ ['{', '\n'] ++ indented body ++
            ['}', '\n']))) := by
  have filled : Filled c.names := ClassDecl.filled_of_slots fun slot mem => (named slot mem).1
  have whole := ClassDecl.whole_lines fun slot mem => (named slot mem).2
  refine ⟨c.lines.flatMap Line.chars, ?_, ?_⟩
  · exact render_eq_ok_iff.mpr ⟨filled, text_of none imports c⟩
  · refine render_eq_ok_iff.mpr ⟨filled, ?_⟩
    have block (heading : List Char) : (Line.block [.outer heading] c.lines).flatMap Line.chars =
        heading ++ ['\n'] ++ ['{', '\n'] ++ (c.lines.map Line.deeper).flatMap Line.chars ++
          ['}', '\n'] := by
      simp [Line.block, Line.outer, Line.chars]
    rw [text_of, Line.indented_flatMap_chars whole, ← block]
    rfl

/-- A class whose names are no identifiers, with lines and braces in its literals. -/
def crooked : ClassDecl where
  access := .isPublic
  name := " x \x7b"
  base := "\x7d"
  attributes := [⟨"a b", [.str "\n\n\x7d"]⟩]
  members :=
    [.field ⟨.isPrivate, "\x7b", "    y", some (.create "z;" [.str "\n"])⟩,
    .method ⟨.isPublic, true, "\x7d", "w", [.member (.ident "  \x7b") "\x7d", .str "\r\n    "]⟩]

/-- The imports and the namespace may hold ends of lines. -/
theorem render_scoped_crooked :
    (∀ slot ∈ crooked.slots, slot.2 ≠ "" ∧ '\n' ∉ slot.2.toList) ∧
    ∃ body,
      (of none ["Game\n", "Game\n"] crooked).render =
        .ok (String.ofList (preludeText (firstOccurrences ["Game\n", "Game\n"]) ++ body)) ∧
      (of (some "N\n\n") ["Game\n", "Game\n"] crooked).render =
        .ok (String.ofList (preludeText (firstOccurrences ["Game\n", "Game\n"]) ++
          ("namespace ".toList ++ "N\n\n".toList ++ ['\n'] ++ ['{', '\n'] ++ indented body ++
            ['}', '\n']))) :=
  have named : ∀ slot ∈ crooked.slots, slot.2 ≠ "" ∧ '\n' ∉ slot.2.toList := by decide
  ⟨named, render_scoped named ["Game\n", "Game\n"] "N\n\n"⟩

end CompilationUnit

end Inspector.CSharp
