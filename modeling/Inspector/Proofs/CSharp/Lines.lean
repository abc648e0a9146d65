import Inspector.CSharp.Line
import Inspector.Proofs.Text.Run

/-!
# Lines read back

Source text tells its lines, with the depth of each. A line of code is tidy when
it starts with something other than a space and holds no end of a line. So the
spaces before it are its indentation, and the text up to the next end of a line
is the line (`flatMap_chars_cancel`).

Lines tell how they were put together. A block is its heading up to the opening
brace and, one level deeper, its body (`block_cancel`); groups are what stands
between the empty lines (`separated_cancel`).
-/

namespace Inspector.CSharp

open Text

namespace Line

/-! ## Text -/

/-- Code that starts with something other than a space and stays on its line. -/
def Tidy : Line → Prop
  | .empty => True
  | .code _ text => Stops (· == ' ') text ∧ text ≠ [] ∧ '\n' ∉ text

/-- The characters of a line before its end. -/
def visible : Line → List Char
  | .empty => []
  | .code depth text => List.replicate (4 * depth) ' ' ++ text

theorem chars_eq (line : Line) : line.chars = line.visible ++ ['\n'] := by
  cases line <;> rfl

theorem flatMap_chars_eq (lines : List Line) :
    lines.flatMap chars = (lines.map visible).flatMap (· ++ ['\n']) := by
  rw [List.flatMap_map, (funext chars_eq : chars = fun line => line.visible ++ ['\n'])]

/-- The text of lines, cut at its newlines, is what is visible of each, and nothing
behind the last. -/
theorem segments_flatMap_chars {lines : List Line} (free : ∀ l ∈ lines, '\n' ∉ l.visible) :
    segments '\n' (lines.flatMap chars) = lines.map visible ++ [[]] := by
  rw [flatMap_chars_eq, segments_ended]
  exact List.forall_mem_map.mpr free

theorem newline_not_mem_visible {line : Line} (h : line.Tidy) : '\n' ∉ line.visible := by
  cases line with
  | empty => exact List.not_mem_nil
  | code depth text =>
    intro mem
    rcases List.mem_append.mp mem with mem | mem
    · exact absurd (List.eq_of_mem_replicate mem) (by decide)
    · exact h.2.2 mem

theorem visible_ne_nil {line : Line} (h : line.Tidy) (shown : line ≠ .empty) :
    line.visible ≠ [] := by
  cases line with
  | empty => exact absurd rfl shown
  | code depth text => exact List.append_ne_nil_of_right_ne_nil _ h.2.1

/-- What is visible of a tidy line tells its depth and its code. -/
theorem visible_cancel {line line' : Line} (h : line.Tidy) (h' : line'.Tidy)
    (same : line.visible = line'.visible) : line = line' := by
  have spaces (depth : Nat) : ∀ c ∈ List.replicate (4 * depth) ' ', c == ' ' := by
    intro c hc
    rw [List.eq_of_mem_replicate hc]
    rfl
  cases line with
  | empty =>
    cases line' with
    | empty => rfl
    | code => exact absurd same.symm (visible_ne_nil h' (by simp))
  | code depth text =>
    cases line' with
    | empty => exact absurd same (visible_ne_nil h (by simp))
    | code depth' text' =>
      obtain ⟨indent, texts⟩ := run_cancel (spaces depth) (spaces depth') h.1 h'.1 same
      have widths := congrArg List.length indent
      rw [List.length_replicate, List.length_replicate] at widths
      have depths : depth = depth' := by omega
      rw [depths, texts]

/-- Texts of tidy lines are equal only line by line. -/
theorem flatMap_chars_cancel {lines lines' : List Line} (tidy : ∀ l ∈ lines, l.Tidy)
    (tidy' : ∀ l ∈ lines', l.Tidy) (h : lines.flatMap chars = lines'.flatMap chars) :
    lines = lines' := by
  have some (line : Line) (more : List Line) : (line :: more).flatMap chars ≠ [] := by
    simp [List.flatMap_cons, chars_eq]
  induction lines generalizing lines' with
  | nil =>
    cases lines' with
    | nil => rfl
    | cons line' more' => exact absurd h.symm (some line' more')
  | cons line more ih =>
    cases lines' with
    | nil => exact absurd h (some line more)
    | cons line' more' =>
      rw [List.flatMap_cons, List.flatMap_cons, chars_eq line, chars_eq line', List.append_assoc,
        List.append_assoc] at h
      have first := tidy line List.mem_cons_self
      have first' := tidy' line' List.mem_cons_self
      obtain ⟨visible, rest⟩ := marker_cancel (newline_not_mem_visible first)
        (newline_not_mem_visible first') h
      rw [visible_cancel first first' visible,
        ih (fun l hl => tidy l (List.mem_cons_of_mem _ hl))
          (fun l hl => tidy' l (List.mem_cons_of_mem _ hl)) rest]

theorem Tidy.deeper {line : Line} (h : line.Tidy) : line.deeper.Tidy := by
  cases line with
  | empty => trivial
  | code depth text => exact h

/-! ## Blocks -/

theorem deeper_injective : Function.Injective deeper := by
  intro line line' same
  cases line <;> cases line' <;> cases same <;> rfl

/-- Lines of blocks are equal only part by part. -/
theorem block_cancel {heading heading' body body' : List Line} (h : outer ['{'] ∉ heading)
    (h' : outer ['{'] ∉ heading') (same : block heading body = block heading' body') :
    heading = heading' ∧ body = body' := by
  simp only [block, List.append_assoc, List.cons_append] at same
  obtain ⟨headings, rest⟩ := marker_cancel h h' same
  have bodies : body.map deeper = body'.map deeper := List.append_cancel_right rest
  exact ⟨headings, (List.map_inj_right fun _ _ => @deeper_injective _ _).mp bodies⟩

/-- What holds of a heading, of the deeper body and of the braces holds of all lines of
a block. -/
theorem forall_block {p : Line → Prop} {heading body : List Line} (h : ∀ l ∈ heading, p l)
    (hb : ∀ l ∈ body, p l.deeper) (opening : p (outer ['{'])) (closing : p (outer ['}'])) :
    ∀ l ∈ block heading body, p l := by
  intro l hl
  simp only [block, List.append_assoc, List.mem_append, List.mem_cons, List.mem_map,
    List.not_mem_nil, or_false, List.cons_append] at hl
  rcases hl with hl | rfl | ⟨inner, hl, rfl⟩ | rfl
  · exact h l hl
  · exact opening
  · exact hb inner hl
  · exact closing

theorem tidy_block {heading body : List Line} (h : ∀ l ∈ heading, l.Tidy)
    (hb : ∀ l ∈ body, l.Tidy) : ∀ l ∈ block heading body, l.Tidy := by
  have brace {c : Char} (space : c ≠ ' ') (newline : c ≠ '\n') : (outer [c]).Tidy :=
    ⟨stops_cons (by simpa using space) [], List.cons_ne_nil _ _, by simpa using newline.symm⟩
  exact forall_block h (fun l hl => (hb l hl).deeper) (brace (by decide) (by decide))
    (brace (by decide) (by decide))

/-! ## Groups -/

theorem separated_cons (group : List Line) (groups : List (List Line)) :
    separated (group :: groups) = group ++ groups.flatMap (.empty :: ·) := by
  induction groups generalizing group with
  | nil => simp [separated]
  | cons next groups ih => simp [separated, ih]

/-- A group lasts up to the next empty line or the end. -/
theorem group_cancel {group group' : List Line} {groups groups' : List (List Line)}
    (h : .empty ∉ group) (h' : .empty ∉ group')
    (same : group ++ groups.flatMap (Line.empty :: ·) =
      group' ++ groups'.flatMap (Line.empty :: ·)) :
    group = group' ∧ groups.flatMap (Line.empty :: ·) = groups'.flatMap (Line.empty :: ·) := by
  have full {group : List Line} (h : .empty ∉ group) : ∀ l ∈ group, decide (l ≠ .empty) := by
    intro l hl
    exact decide_eq_true fun same => h (same ▸ hl)
  have stop (groups : List (List Line)) :
      Stops (fun l => decide (l ≠ .empty)) (groups.flatMap (Line.empty :: ·)) := by
    cases groups with
    | nil => exact stops_nil _
    | cons => exact stops_cons (by simp) _
  exact run_cancel (full h) (full h') (stop groups) (stop groups') same

/-- Groups with an empty line before each are equal only group by group. -/
theorem flatMap_empty_cancel {groups groups' : List (List Line)} (h : ∀ g ∈ groups, .empty ∉ g)
    (h' : ∀ g ∈ groups', .empty ∉ g)
    (same : groups.flatMap (Line.empty :: ·) = groups'.flatMap (Line.empty :: ·)) :
    groups = groups' := by
  induction groups generalizing groups' with
  | nil =>
    cases groups' with
    | nil => rfl
    | cons => cases same
  | cons group groups ih =>
    cases groups' with
    | nil => cases same
    | cons group' groups' =>
      obtain ⟨first, rest⟩ := group_cancel (h group List.mem_cons_self)
        (h' group' List.mem_cons_self) (List.cons.inj same).2
      rw [first, ih (fun g hg => h g (List.mem_cons_of_mem _ hg))
        (fun g hg => h' g (List.mem_cons_of_mem _ hg)) rest]

/-- Groups with empty lines between them are equal only group by group. -/
theorem separated_cancel {groups groups' : List (List Line)}
    (h : ∀ g ∈ groups, g ≠ [] ∧ .empty ∉ g) (h' : ∀ g ∈ groups', g ≠ [] ∧ .empty ∉ g)
    (same : separated groups = separated groups') : groups = groups' := by
  have some {group : List Line} (rest : List (List Line)) (hg : group ≠ []) :
      separated (group :: rest) ≠ [] := by
    simp [separated_cons, hg]
  cases groups with
  | nil =>
    cases groups' with
    | nil => rfl
    | cons group' rest' =>
      exact absurd same.symm (some rest' (h' group' List.mem_cons_self).1)
  | cons group rest =>
    cases groups' with
    | nil => exact absurd same (some rest (h group List.mem_cons_self).1)
    | cons group' rest' =>
      rw [separated_cons, separated_cons] at same
      obtain ⟨first, others⟩ := group_cancel (h group List.mem_cons_self).2
        (h' group' List.mem_cons_self).2 same
      rw [first, flatMap_empty_cancel (fun g hg => (h g (List.mem_cons_of_mem _ hg)).2)
        (fun g hg => (h' g (List.mem_cons_of_mem _ hg)).2) others]

/-- What holds of the groups and of an empty line holds of all lines. -/
theorem forall_separated {p : Line → Prop} {groups : List (List Line)}
    (h : ∀ g ∈ groups, ∀ l ∈ g, p l) (empty : p .empty) : ∀ l ∈ separated groups, p l := by
  cases groups with
  | nil => intro l hl; cases hl
  | cons group rest =>
    obtain ⟨first, others⟩ := List.forall_mem_cons.mp h
    rw [separated_cons, List.forall_mem_append, List.forall_mem_flatMap]
    exact ⟨first, fun g hg => List.forall_mem_cons.mpr ⟨empty, others g hg⟩⟩

theorem tidy_separated {groups : List (List Line)} (h : ∀ g ∈ groups, ∀ l ∈ g, l.Tidy) :
    ∀ l ∈ separated groups, l.Tidy :=
  forall_separated h trivial

end Line

end Inspector.CSharp
