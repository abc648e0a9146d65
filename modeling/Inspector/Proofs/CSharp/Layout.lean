import Inspector.Proofs.CSharp.Unambiguous
import Mathlib.Data.List.Chain

/-!
# How a file is laid out

Whoever reads a file line by line can keep a depth: a line of spaces and `{` raises it
and a line of spaces and `}` lowers it. A file is laid out (`LaidOut`) if the depth never
falls below zero and ends there, every line that shows something is indented by four
spaces for each level, with a closing brace at the level of its opening one, and empty
lines are single and hold no white space.

**The law** (`CompilationUnit.laidOut_text`): the text of a well-named file is laid out.
A line leads from one depth to another (`Step`), and lines make a walk if each starts at
the depth at which the one before it ended (`Walk`). Lines that walk back to the depth
they started at, wherever that is, are settled, and settled lines can be put behind
each other and into blocks. Nothing else can be a brace on a line of its own, since
code does not begin with one and a string literal does not break its line.
-/

namespace Inspector.CSharp

open Text

/-! ## Depth -/

/-- How much a line changes the depth. -/
def weight (line : List Char) : Int :=
  match line.dropWhile (· == ' ') with
  | ['{'] => 1
  | ['}'] => -1
  | _ => 0

/-- The depth behind some lines. -/
def depth : List (List Char) → Int
  | [] => 0
  | line :: rest => weight line + depth rest

/-- How many spaces a line starts with. -/
def indentation (line : List Char) : Nat :=
  (line.takeWhile (· == ' ')).length

/-- Lines in the layout of a generated file. -/
structure LaidOut (lines : List (List Char)) : Prop where
  /-- No brace is closed that has not been opened. -/
  floor : ∀ before, before <+: lines → 0 ≤ depth before
  /-- Every brace is closed. -/
  balanced : depth lines = 0
  /-- An opening brace is indented as what is before it, a closing one as what is behind. -/
  indented : ∀ before line after, lines = before ++ line :: after → line ≠ [] →
    (indentation line : Int) = 4 * min (depth before) (depth (before ++ [line]))
  /-- A line that shows nothing has nothing on it. -/
  blank : ∀ line ∈ lines, line.all isBlank → line = []
  /-- Of two neighbours one shows something. -/
  single : lines.IsChain fun line next => line ≠ [] ∨ next ≠ []

/-! ## Walks -/

/-- The spaces before code at a depth. -/
def indent (depth : Nat) : List Char :=
  List.replicate (4 * depth) ' '

/-- A line in its place, with the depth before it and the depth behind it. -/
inductive Step : Nat → List Char → Nat → Prop
  | blank (depth : Nat) : Step depth [] depth
  | code (depth : Nat) {text : List Char} : Begins text → Step depth (indent depth ++ text) depth
  | opening (depth : Nat) : Step depth (indent depth ++ ['{']) (depth + 1)
  | closing (depth : Nat) : Step (depth + 1) (indent depth ++ ['}']) depth

/-- Lines in their places, one after another. -/
inductive Walk : Nat → List (List Char) → Nat → Prop
  | nil (depth : Nat) : Walk depth [] depth
  | cons {a b c : Nat} {line : List Char} {lines : List (List Char)} :
      Step a line b → Walk b lines c → Walk a (line :: lines) c

theorem takeWhile_indent (depth : Nat) {text : List Char} (stop : Stops (· == ' ') text) :
    (indent depth ++ text).takeWhile (· == ' ') = indent depth :=
  takeWhile_run (fun _ mem => beq_iff_eq.mpr (List.eq_of_mem_replicate mem)) stop

theorem dropWhile_indent (depth : Nat) {text : List Char} (stop : Stops (· == ' ') text) :
    (indent depth ++ text).dropWhile (· == ' ') = text := by
  have whole := List.takeWhile_append_dropWhile (p := (· == ' ')) (l := indent depth ++ text)
  rw [takeWhile_indent depth stop] at whole
  exact List.append_cancel_left whole

theorem stops_brace {c : Char} (other : c ≠ ' ') : Stops (· == ' ') [c] :=
  stops_cons (p := (· == ' ')) (beq_eq_false_iff_ne.mpr other) []

theorem Begins.weight_indent {text : List Char} (h : Begins text) (depth : Nat) :
    weight (indent depth ++ text) = 0 := by
  rw [weight, dropWhile_indent depth h.stops_space]
  split
  · exact absurd rfl (h.ne_cons (by decide) [])
  · exact absurd rfl (h.ne_cons (by decide) [])
  · rfl

theorem indentation_indent (depth : Nat) {text : List Char} (stop : Stops (· == ' ') text) :
    indentation (indent depth ++ text) = 4 * depth := by
  rw [indentation, takeWhile_indent depth stop, indent, List.length_replicate]

namespace Step

variable {a b : Nat} {line : List Char}

theorem weight_eq (h : Step a line b) : (b : Int) = a + weight line := by
  cases h with
  | blank => exact (Int.add_zero _).symm
  | code _ begins => rw [begins.weight_indent, Int.add_zero]
  | opening =>
    rw [weight, dropWhile_indent _ (stops_brace (by decide))]
    rfl
  | closing =>
    rw [weight, dropWhile_indent _ (stops_brace (by decide))]
    show (b : Int) = (b + 1 : Nat) + (-1 : Int)
    omega

/-- A line is indented to the lower of its two depths. -/
theorem indentation_eq (h : Step a line b) (shown : line ≠ []) :
    indentation line = 4 * min a b := by
  cases h with
  | blank => exact absurd rfl shown
  | code _ begins => rw [indentation_indent _ begins.stops_space, Nat.min_self]
  | opening =>
    rw [indentation_indent _ (stops_brace (by decide)), Nat.min_eq_left (Nat.le_succ _)]
  | closing =>
    rw [indentation_indent _ (stops_brace (by decide)), Nat.min_eq_right (Nat.le_succ _)]

theorem eq_nil_of_blank (h : Step a line b) (blank : line.all isBlank) : line = [] := by
  have last {c : Char} {more : List Char} (depth : Nat) (shown : ¬isBlank c) :
      ¬(indent depth ++ c :: more).all isBlank := by
    simp [shown]
  cases h with
  | blank => rfl
  | code _ begins =>
    obtain ⟨c, more, rfl, start⟩ := begins
    refine absurd blank (last _ fun shown => ?_)
    simp [startsCode, shown] at start
  | opening => exact absurd blank (last _ (by decide))
  | closing => exact absurd blank (last _ (by decide))

end Step

namespace Walk

variable {a b c : Nat} {lines more : List (List Char)}

theorem append_iff : Walk a (lines ++ more) c ↔ ∃ b, Walk a lines b ∧ Walk b more c := by
  constructor
  · intro h
    induction lines generalizing a with
    | nil => exact ⟨a, .nil a, h⟩
    | cons line lines ih =>
      cases h with
      | cons step rest =>
        obtain ⟨b, first, second⟩ := ih rest
        exact ⟨b, .cons step first, second⟩
  · rintro ⟨b, first, second⟩
    induction first with
    | nil => exact second
    | cons step _ ih => exact .cons step (ih second)

theorem append (first : Walk a lines b) (second : Walk b more c) : Walk a (lines ++ more) c :=
  append_iff.mpr ⟨b, first, second⟩

/-- The depth behind lines is where they lead. -/
theorem depth_eq (h : Walk a lines b) : (b : Int) = a + depth lines := by
  induction h with
  | nil => exact (Int.add_zero _).symm
  | cons step _ ih => rw [ih, step.weight_eq, depth, Int.add_assoc]

/-- Lines that lead from the outermost level back to it are laid out. -/
theorem laidOut (h : Walk 0 lines 0)
    (single : lines.IsChain fun line next => line ≠ [] ∨ next ≠ []) : LaidOut lines where
  floor before first := by
    -- a walk has depths that are natural numbers, and a prefix is a walk
    obtain ⟨after, rfl⟩ := first
    obtain ⟨b, walk, _⟩ := append_iff.mp h
    have reached := walk.depth_eq
    omega
  balanced := by
    have reached := h.depth_eq
    omega
  indented before line after same shown := by
    subst same
    obtain ⟨a, walk, rest⟩ := append_iff.mp h
    cases rest with
    | @cons _ b _ _ _ step _ =>
      have reached := walk.depth_eq
      have next := (walk.append (.cons step (.nil b))).depth_eq
      have spaces := step.indentation_eq shown
      omega
  blank line mem := by
    obtain ⟨before, after, rfl⟩ := List.append_of_mem mem
    obtain ⟨_, _, rest⟩ := append_iff.mp h
    cases rest with
    | cons step _ => exact step.eq_nil_of_blank
  single := single

end Walk

namespace Line

/-! ## Settled lines -/

/-- What is visible of a line whose outermost level is a given one. -/
def visibleAt (base : Nat) : Line → List Char
  | .empty => []
  | .code depth text => indent (base + depth) ++ text

theorem visibleAt_zero (line : Line) : line.visibleAt 0 = line.visible := by
  cases line with
  | empty => rfl
  | code depth text => rw [visibleAt, Nat.zero_add]; rfl

theorem visibleAt_deeper (base : Nat) (line : Line) :
    line.deeper.visibleAt base = line.visibleAt (base + 1) := by
  cases line with
  | empty => rfl
  | code depth text => rw [deeper, visibleAt, visibleAt, Nat.add_assoc, Nat.add_comm 1]

/-- Wherever the lines are put, they lead back to where they started. -/
def Settled (lines : List Line) : Prop :=
  ∀ base, Walk base (lines.map (visibleAt base)) base

theorem settled_nil : Settled [] := fun base => .nil base

theorem Settled.append {lines more : List Line} (h : Settled lines) (h' : Settled more) :
    Settled (lines ++ more) := by
  intro base
  rw [List.map_append]
  exact (h base).append (h' base)

theorem settled_empty : Settled [.empty] :=
  fun base => .cons (.blank base) (.nil base)

theorem settled_outer {text : List Char} (h : Begins text) : Settled [outer text] :=
  fun base => .cons (.code base h) (.nil base)

theorem settled_flatMap {α : Type} {xs : List α} {f : α → List Line}
    (h : ∀ x ∈ xs, Settled (f x)) : Settled (xs.flatMap f) := by
  induction xs with
  | nil => exact settled_nil
  | cons x xs ih =>
    obtain ⟨first, others⟩ := List.forall_mem_cons.mp h
    rw [List.flatMap_cons]
    exact first.append (ih others)

theorem settled_map {α : Type} {xs : List α} {f : α → List Char}
    (h : ∀ x ∈ xs, Begins (f x)) : Settled (xs.map fun x => outer (f x)) := by
  rw [← List.flatMap_singleton' (xs.map _), List.flatMap_map]
  exact settled_flatMap fun x mem => settled_outer (h x mem)

theorem map_visibleAt_block (base : Nat) (heading body : List Line) :
    (block heading body).map (visibleAt base) = heading.map (visibleAt base) ++
      ((indent base ++ ['{']) :: body.map (visibleAt (base + 1)) ++ [indent base ++ ['}']]) := by
  have inner : (body.map deeper).map (visibleAt base) = body.map (visibleAt (base + 1)) := by
    rw [List.map_map]
    exact List.map_congr_left fun line _ => visibleAt_deeper base line
  rw [block, List.map_append, List.map_append, List.map_cons, inner, List.append_assoc]
  rfl

/-- The depth that the opening brace adds is the one that the closing brace takes. -/
theorem settled_block {heading body : List Line} (h : Settled heading) (hb : Settled body) :
    Settled (block heading body) := by
  intro base
  have closing : Walk (base + 1) [indent base ++ ['}']] base := .cons (.closing base) (.nil base)
  rw [map_visibleAt_block]
  exact (h base).append (.cons (.opening base) ((hb (base + 1)).append closing))

theorem settled_separated {groups : List (List Line)} (h : ∀ g ∈ groups, Settled g) :
    Settled (separated groups) := by
  cases groups with
  | nil => exact settled_nil
  | cons group groups =>
    obtain ⟨first, others⟩ := List.forall_mem_cons.mp h
    rw [separated_cons]
    exact first.append (settled_flatMap fun g mem => settled_empty.append (others g mem))

/-! ## Single empty lines -/

/-- Of two neighbours one is a line of code. -/
def Spaced (lines : List Line) : Prop :=
  lines.IsChain fun line next => line ≠ .empty ∨ next ≠ .empty

theorem spaced_of_full {lines : List Line} (full : .empty ∉ lines) : Spaced lines := by
  induction lines with
  | nil => exact .nil
  | cons line lines ih =>
    rw [List.mem_cons, not_or] at full
    exact List.isChain_cons.mpr ⟨fun _ _ => .inl (Ne.symm full.1), ih full.2⟩

theorem Spaced.append {lines more : List Line} (h : Spaced lines) (h' : Spaced more)
    (between : .empty ∉ lines.getLast? ∨ .empty ∉ more.head?) : Spaced (lines ++ more) := by
  refine List.isChain_append.mpr ⟨h, h', fun line last next first => ?_⟩
  rcases between with full | full
  · exact .inl fun same => full (same ▸ last)
  · exact .inr fun same => full (same ▸ first)

/-- An empty line can stand between lines of code. -/
theorem Spaced.gap {lines more : List Line} (h : Spaced lines) (h' : Spaced more)
    (last : .empty ∉ lines.getLast?) (first : .empty ∉ more.head?) :
    Spaced (lines ++ .empty :: more) := by
  have rest : Spaced (.empty :: more) :=
    List.isChain_cons.mpr ⟨fun _ mem => .inr fun same => first (same ▸ mem), h'⟩
  exact h.append rest (.inl last)

/-- The braces keep what is between them from meeting an empty line. -/
theorem spaced_block {heading body : List Line} (h : Spaced heading) (hb : Spaced body) :
    Spaced (block heading body) := by
  have shown {line : Line} (some : line ≠ .empty) : line.deeper ≠ .empty :=
    fun same => some (deeper_injective same)
  have lowered : Spaced (body.map deeper) :=
    (List.isChain_map deeper).mpr (hb.imp fun _ _ some => some.imp shown shown)
  have closed : Spaced (body.map deeper ++ [outer ['}']]) :=
    lowered.append (List.isChain_singleton _) (.inr (by simp [outer]))
  have opened : Spaced (outer ['{'] :: (body.map deeper ++ [outer ['}']])) :=
    List.isChain_cons.mpr ⟨fun _ _ => .inl (by simp [outer]), closed⟩
  rw [block, List.append_assoc]
  exact h.append opened (.inr (by simp [outer]))

theorem empty_not_mem_getLast? {lines : List Line} (full : .empty ∉ lines) :
    .empty ∉ lines.getLast? :=
  fun mem => full (List.mem_of_getLast? mem)

theorem spaced_separated {groups : List (List Line)} (full : ∀ g ∈ groups, g ≠ [] ∧ .empty ∉ g) :
    Spaced (separated groups) := by
  induction groups using separated.induct with
  | case1 => exact .nil
  | case2 group => exact spaced_of_full (full group List.mem_cons_self).2
  | case3 group next rest ih =>
    obtain ⟨⟨_, here⟩, others⟩ := List.forall_mem_cons.mp full
    obtain ⟨some, there⟩ := others next List.mem_cons_self
    rw [separated]
    refine (spaced_of_full here).gap (ih others) (empty_not_mem_getLast? here) ?_
    rw [separated_cons, List.head?_append_of_ne_nil _ some]
    exact fun mem => there (List.mem_of_mem_head? mem)

end Line

/-! ## Declarations -/

theorem Member.settled_lines {m : Member} (named : WellNamed m.slots) :
    Line.Settled m.lines := by
  cases m with
  | field f => exact Line.settled_outer f.begins
  | method m =>
    obtain ⟨_, _, statements⟩ := MethodDecl.wellNamed_iff.mp named
    refine Line.settled_block (Line.settled_outer m.begins_signature) ?_
    exact Line.settled_map fun e mem => begins_statementText (statements e mem)

namespace ClassDecl

theorem settled_lines {c : ClassDecl} (named : WellNamed c.slots) : Line.Settled c.lines := by
  obtain ⟨_, _, _, members⟩ := wellNamed_iff.mp named
  rw [lines_eq]
  refine Line.settled_block ?_ (Line.settled_separated fun g mem => ?_)
  · exact (Line.settled_map fun a _ => a.begins).append (Line.settled_outer c.begins_heading)
  · obtain ⟨m, held, rfl⟩ := List.mem_map.mp mem
    exact Member.settled_lines (members m held)

theorem spaced_lines (c : ClassDecl) : Line.Spaced c.lines := by
  rw [lines_eq]
  refine Line.spaced_block (Line.spaced_of_full ?_) (Line.spaced_separated fun g mem => ?_)
  · simp [opening, Line.outer]
  · obtain ⟨m, _, rfl⟩ := List.mem_map.mp mem
    exact m.lines_full

end ClassDecl

theorem settled_preludeLines (imports : List String) : Line.Settled (preludeLines imports) := by
  have gap : Line.Settled (if imports.isEmpty then [] else [.empty]) := by
    cases imports with
    | nil => exact Line.settled_nil
    | cons => exact Line.settled_empty
  have names : Line.Settled (imports.map fun name => .outer (importText name)) :=
    Line.settled_map fun name _ => begins_importText name
  have comment : Line.Settled (banner.map fun line => .outer line.toList) :=
    Line.settled_map fun _ mem => begins_of_mem_banner mem
  rw [preludeLines_eq]
  exact comment.append (Line.settled_empty.append (names.append gap))

theorem spaced_preludeLines_append (imports : List String) {body : List Line}
    (h : Line.Spaced body) (first : .empty ∉ body.head?) :
    Line.Spaced (preludeLines imports ++ body) := by
  have full {α : Type} (xs : List α) (f : α → List Char) : .empty ∉ xs.map (Line.outer ∘ f) := by
    simp [Line.outer]
  have comment := full banner String.toList
  have names := full imports importText
  rw [preludeLines_eq, List.append_assoc, List.cons_append]
  refine (Line.spaced_of_full comment).gap ?_ (Line.empty_not_mem_getLast? comment) ?_
  · cases imports with
    | nil => exact h
    | cons name imports =>
      rw [importLines, List.append_assoc]
      exact (Line.spaced_of_full names).gap h (Line.empty_not_mem_getLast? names) first
  · cases imports with
    | nil => exact first
    | cons name imports => simp [importLines, Line.outer]

namespace CompilationUnit

theorem settled_lines {u : CompilationUnit} (named : WellNamed u.slots) :
    Line.Settled u.lines := by
  obtain ⟨_, _, cls⟩ := wellNamed_iff.mp named
  have cls := ClassDecl.settled_lines cls
  rw [lines]
  refine (settled_preludeLines u.imports).append ?_
  cases scope : u.scope with
  | none => rwa [bodyLines_of_none scope]
  | some name =>
    rw [bodyLines_of_some scope]
    exact Line.settled_block (Line.settled_outer (begins_scopeText name)) cls

theorem spaced_lines (u : CompilationUnit) : Line.Spaced u.lines := by
  obtain ⟨first, text, rest, body, _⟩ := u.bodyLines_cons
  rw [lines]
  refine spaced_preludeLines_append u.imports ?_ (by simp [body, Line.outer])
  cases scope : u.scope with
  | none =>
    rw [bodyLines_of_none scope]
    exact u.cls.spaced_lines
  | some name =>
    rw [bodyLines_of_some scope]
    exact Line.spaced_block (List.isChain_singleton _) u.cls.spaced_lines

/-- A file ends with the brace of its class or its namespace. -/
theorem exists_closing (u : CompilationUnit) : ∃ front, u.lines = front ++ [.outer ['}']] := by
  have block : ∃ heading body, u.bodyLines = Line.block heading body := by
    cases scope : u.scope with
    | none => exact ⟨_, _, bodyLines_of_none scope⟩
    | some name => exact ⟨_, _, bodyLines_of_some scope⟩
  obtain ⟨heading, body, same⟩ := block
  exact ⟨_, by rw [lines, same, Line.block, ← List.append_assoc]⟩

/-- The text of a file ends with exactly one newline. -/
theorem exists_newline (u : CompilationUnit) : ∃ front, u.text.toList = front ++ ['}', '\n'] := by
  obtain ⟨front, same⟩ := u.exists_closing
  refine ⟨front.flatMap Line.chars, ?_⟩
  rw [text, String.toList_ofList, same, List.flatMap_append]
  rfl

/-- Cut at its newlines, the text of a file is its lines, with nothing behind the last. -/
theorem segments_text {u : CompilationUnit} (named : WellNamed u.slots) :
    segments '\n' u.text.toList = (u.lines ++ [Line.empty]).map Line.visible := by
  have free : ∀ l ∈ u.lines, '\n' ∉ l.visible :=
    fun l mem => Line.newline_not_mem_visible (tidy_lines named l mem)
  rw [text, String.toList_ofList, Line.segments_flatMap_chars free, List.map_append]
  rfl

/-- The text of a well-named file is laid out. -/
theorem laidOut_text {u : CompilationUnit} (named : WellNamed u.slots) :
    LaidOut (segments '\n' u.text.toList) := by
  obtain ⟨front, same⟩ := u.exists_closing
  have tidy : ∀ l ∈ u.lines ++ [Line.empty], l.Tidy :=
    List.forall_mem_append.mpr ⟨tidy_lines named, by simp [Line.Tidy]⟩
  have spaced : Line.Spaced (u.lines ++ [.empty]) :=
    u.spaced_lines.append (List.isChain_singleton _) (.inl (by simp [same, Line.outer]))
  have walk := (settled_lines named).append Line.settled_empty 0
  rw [funext Line.visibleAt_zero] at walk
  rw [segments_text named]
  refine walk.laidOut ((List.isChain_map _).mpr (spaced.imp_of_mem_imp ?_))
  intro line next mem mem' some
  exact some.imp (Line.visible_ne_nil (tidy line mem)) (Line.visible_ne_nil (tidy next mem'))

end CompilationUnit

/-! ## The members of a class -/

theorem Line.map_separated {β : Type} (f : Line → β) (groups : List (List Line)) :
    (Line.separated groups).map f = List.intercalate [f .empty] (groups.map (List.map f)) := by
  induction groups using Line.separated.induct with
  | case1 => rfl
  | case2 group => simp [Line.separated]
  | case3 group next rest ih =>
    rw [Line.separated, List.map_append, List.map_cons, ih, List.map_cons (a := group),
      List.intercalate_cons_of_ne_nil (by simp)]
    simp

/-- The lines of a member of a class whose members stand at a depth. -/
def Member.linesAt (level : Nat) (m : Member) : List (List Char) :=
  m.lines.map (Line.visibleAt level)

/-- No empty line is in a member. -/
theorem Member.linesAt_full {m : Member} (named : WellNamed m.slots) (level : Nat) :
    m.linesAt level ≠ [] ∧ [] ∉ m.linesAt level := by
  obtain ⟨some, full⟩ := m.lines_full
  refine ⟨by simpa [linesAt] using some, fun mem => ?_⟩
  obtain ⟨line, held, none⟩ := List.mem_map.mp mem
  cases line with
  | empty => exact full held
  | code depth text =>
    exact (tidy_lines named _ held).2.1 (List.append_eq_nil_iff.mp none).2

/-- Among lines, those of the members of a class are in the braces of the class, with
exactly one empty line between any two members. -/
def ClassDecl.MembersApart (c : ClassDecl) (lines : List (List Char)) : Prop :=
  ∃ level above below,
    lines = above ++ (indent level ++ ['{']) ::
      List.intercalate [[]] (c.members.map (·.linesAt (level + 1))) ++
        (indent level ++ ['}']) :: below ∧
    ∀ m ∈ c.members, m.linesAt (level + 1) ≠ [] ∧ [] ∉ m.linesAt (level + 1)

theorem ClassDecl.membersApart {c : ClassDecl} (named : WellNamed c.slots) (level : Nat)
    (above below : List (List Char)) :
    c.MembersApart (above ++ c.lines.map (Line.visibleAt level) ++ below) := by
  obtain ⟨_, _, _, members⟩ := wellNamed_iff.mp named
  refine ⟨level, above ++ c.opening.map (Line.visibleAt level), below, ?_,
    fun m mem => Member.linesAt_full (members m mem) (level + 1)⟩
  rw [lines_eq, Line.map_visibleAt_block, Line.map_separated, List.map_map]
  simp only [List.append_assoc, List.cons_append, List.nil_append]
  rfl

namespace CompilationUnit

/-- In the text of a well-named file the members of the class are apart. -/
theorem membersApart_text {u : CompilationUnit} (named : WellNamed u.slots) :
    u.cls.MembersApart (segments '\n' u.text.toList) := by
  obtain ⟨_, _, cls⟩ := wellNamed_iff.mp named
  rw [segments_text named, ← funext Line.visibleAt_zero, List.map_append, lines, List.map_append]
  cases scope : u.scope with
  | none =>
    rw [bodyLines_of_none scope]
    exact ClassDecl.membersApart cls 0 _ _
  | some name =>
    have apart := ClassDecl.membersApart cls 1
      ((preludeLines u.imports).map (Line.visibleAt 0) ++
        [indent 0 ++ scopeText name, indent 0 ++ ['{']]) [indent 0 ++ ['}'], []]
    rw [bodyLines_of_some scope, Line.map_visibleAt_block]
    simp only [List.append_assoc, List.cons_append, List.nil_append] at apart ⊢
    exact apart

end CompilationUnit

end Inspector.CSharp
