import Inspector.Proofs.CSharp.Lexical
import Inspector.Proofs.CSharp.Unambiguous

/-!
# What reaches the text of a file

A character that is foreign to source reaches the text of a file only through the
string literals of its class, and the end of a line also through the lines
themselves.

**The law** (`CompilationUnit.mem_text_iff`): apart from the ends of its lines,
such a character stands in the text of a well-named file exactly if one of its
string literals holds it. The text is laid out in lines, so the law is said of the
letters of lines on the way, in which blocks and the gaps between members do not
show.

So a file is on its own lines exactly if no content of a string literal has a bare
line end (`CompilationUnit.hostLines_text_iff`).
-/

namespace Inspector.CSharp

variable {c : Char}

/-! ## Lines -/

namespace Line

/-- The code of a line, if it has any. -/
def letters : Line → List Char
  | empty => []
  | code _ text => text

theorem letters_deeper (line : Line) : line.deeper.letters = line.letters := by
  cases line <;> rfl

theorem letters_line (text : List Char) : [outer text].flatMap letters = text :=
  List.flatMap_singleton _ _

theorem letters_outer {α : Type} (xs : List α) (f : α → List Char) :
    (xs.map fun x => outer (f x)).flatMap letters = xs.flatMap f := by
  rw [List.flatMap_map]
  rfl

theorem mem_chars_iff (foreign : Foreign c) {line : Line} :
    c ∈ line.chars ↔ c = '\n' ∨ c ∈ line.letters := by
  have indent (depth : Nat) : c ∉ List.replicate (4 * depth) ' ' := by
    intro mem
    exact foreign.ne (by decide) (List.eq_of_mem_replicate mem)
  cases line with
  | empty => simp [chars, letters]
  | code depth text =>
    rw [chars, List.append_assoc, List.mem_append, or_iff_right (indent depth), List.mem_append,
      List.mem_singleton, or_comm]
    rfl

theorem mem_block_iff (foreign : Foreign c) {heading body : List Line} :
    c ∈ (block heading body).flatMap letters ↔
      c ∈ heading.flatMap letters ∨ c ∈ body.flatMap letters := by
  have brace {d : Char} (printable : isPrintable d) : c ∉ (outer [d]).letters := by
    intro mem
    exact foreign.ne printable (List.mem_singleton.mp mem)
  simp only [block, List.append_assoc, List.cons_append, List.flatMap_append, List.flatMap_cons,
    List.flatMap_nil, List.flatMap_map, letters_deeper, List.mem_append, List.not_mem_nil,
    brace (d := '{') (by decide), brace (d := '}') (by decide), false_or, or_false]

theorem letters_separated (groups : List (List Line)) :
    (separated groups).flatMap letters = groups.flatMap (·.flatMap letters) := by
  cases groups with
  | nil => rfl
  | cons group groups =>
    rw [separated_cons, List.flatMap_append, List.flatMap_cons, List.flatMap_assoc]
    rfl

end Line

/-! ## Declarations -/

theorem Member.mem_lines_iff (foreign : Foreign c) {m : Member} (free : Free c m.slots) :
    c ∈ m.lines.flatMap Line.letters ↔ Expr.Quoted c m.exprs := by
  cases m with
  | field f =>
    rw [lines, Line.letters_line]
    exact FieldDecl.mem_text_iff foreign free
  | method m =>
    obtain ⟨_, _, statements⟩ := MethodDecl.forall_slots.mp free
    have signature : c ∉ [Line.outer m.signature].flatMap Line.letters := by
      rw [Line.letters_line]
      exact MethodDecl.not_mem_signature foreign.not_heading free
    have body : m.body.flatMap (fun e => [e]) = m.body := by simp
    rw [lines, Line.mem_block_iff foreign, or_iff_right signature, Line.letters_outer,
      List.mem_flatMap, exprs, ← body, Expr.quoted_flatMap, body]
    refine exists_congr fun e => and_congr_right fun mem => ?_
    exact mem_statementText_iff foreign (statements e mem)

theorem ClassDecl.mem_lines_iff (foreign : Foreign c) {d : ClassDecl} (free : Free c d.slots) :
    c ∈ d.lines.flatMap Line.letters ↔ Expr.Quoted c d.exprs := by
  obtain ⟨_, _, attributes, members⟩ := forall_slots.mp free
  have opening : c ∈ d.opening.flatMap Line.letters ↔
      Expr.Quoted c (d.attributes.flatMap (·.args)) := by
    have heading : c ∉ [Line.outer d.heading].flatMap Line.letters := by
      rw [Line.letters_line]
      exact not_mem_heading foreign.not_heading free
    rw [ClassDecl.opening, List.flatMap_append, List.mem_append, or_iff_left heading,
      Line.letters_outer, List.mem_flatMap, Expr.quoted_flatMap]
    refine exists_congr fun a => and_congr_right fun mem => ?_
    exact Attribute.mem_text_iff foreign (attributes a mem)
  have body : c ∈ (Line.separated (d.members.map (·.lines))).flatMap Line.letters ↔
      Expr.Quoted c (d.members.flatMap (·.exprs)) := by
    rw [Line.letters_separated, List.flatMap_map, List.mem_flatMap, Expr.quoted_flatMap]
    refine exists_congr fun m => and_congr_right fun mem => ?_
    exact Member.mem_lines_iff foreign (members m mem)
  rw [lines_eq, Line.mem_block_iff foreign, opening, body, exprs, Expr.quoted_append]

/-! ## Files -/

namespace CompilationUnit

theorem not_mem_preludeLines (foreign : Foreign c) {imports : List String}
    (named : ∀ name ∈ imports, NameForm.qualified.admits name) :
    c ∉ (preludeLines imports).flatMap Line.letters := by
  have gap : c ∉ (if imports.isEmpty then [] else [Line.empty]).flatMap Line.letters := by
    cases imports <;> exact List.not_mem_nil
  rw [preludeLines_eq, List.flatMap_append, List.mem_append, Line.letters_outer, List.flatMap_cons,
    importLines, List.flatMap_append, Line.letters_outer, List.mem_append, List.mem_append,
    or_iff_left gap, not_or, not_or]
  refine ⟨?_, List.not_mem_nil, ?_⟩
  · intro mem
    obtain ⟨line, known, mem⟩ := List.mem_flatMap.mp mem
    exact foreign.not_mem (printable_of_mem_banner known) mem
  · intro mem
    obtain ⟨name, known, mem⟩ := List.mem_flatMap.mp mem
    exact not_mem_importText foreign.not_heading (foreign.not_mem_name (named name known)) mem

theorem mem_bodyLines_iff (foreign : Foreign c) {u : CompilationUnit} (named : WellNamed u.slots) :
    c ∈ u.bodyLines.flatMap Line.letters ↔ Expr.Quoted c u.cls.exprs := by
  obtain ⟨outer, _, cls⟩ := wellNamed_iff.mp named
  have cls := ClassDecl.mem_lines_iff foreign (foreign.free cls)
  cases scope : u.scope with
  | none => rw [bodyLines_of_none scope, cls]
  | some name =>
    have opening : c ∉ [Line.outer (scopeText name)].flatMap Line.letters := by
      rw [Line.letters_line]
      exact not_mem_scopeText foreign.not_heading
        (foreign.not_mem_name (outer name (by simp [scope])))
    rw [bodyLines_of_some scope, Line.mem_block_iff foreign, or_iff_right opening, cls]

/-- Apart from the ends of lines, a foreign character of a file stands in one of
its string literals. -/
theorem mem_text_iff (foreign : Foreign c) {u : CompilationUnit} (named : WellNamed u.slots)
    (other : c ≠ '\n') :
    c ∈ u.text.toList ↔ ∃ value ∈ u.contents, c ∈ stringLiteral value := by
  obtain ⟨_, imports, _⟩ := wellNamed_iff.mp named
  have letters : c ∈ u.text.toList ↔ c ∈ u.lines.flatMap Line.letters := by
    simp only [text, String.toList_ofList, List.mem_flatMap, Line.mem_chars_iff foreign, other,
      false_or]
  rw [letters, lines, List.flatMap_append, List.mem_append,
    or_iff_right (not_mem_preludeLines foreign imports), mem_bodyLines_iff foreign named]
  rfl

/-- A file has the lines it was laid out in, exactly if the contents of its string
literals are on one line each. -/
theorem hostLines_text_iff {u : CompilationUnit} (named : WellNamed u.slots) :
    hostLines u.text.toList = Text.segments '\n' u.text.toList ↔ OnOneLine u.contents := by
  rw [hostLines_eq_iff]
  constructor
  · intro only value known c mem bare
    have lineEnd := lineEnd_of_bare bare
    have other : c ≠ '\n' := by
      rintro rfl
      exact absurd bare (by decide)
    have within := (lineEnd_mem_stringLiteral_iff lineEnd).mpr ⟨bare, mem⟩
    have text := (mem_text_iff (foreign_of_lineEnd lineEnd) named other).mpr ⟨value, known, within⟩
    exact other (only c text lineEnd)
  · intro oneLine c text lineEnd
    by_cases newline : c = '\n'
    · exact newline
    · obtain ⟨value, known, within⟩ :=
        (mem_text_iff (foreign_of_lineEnd lineEnd) named newline).mp text
      obtain ⟨bare, mem⟩ := (lineEnd_mem_stringLiteral_iff lineEnd).mp within
      exact absurd bare (oneLine value known c mem)

end CompilationUnit

end Inspector.CSharp
