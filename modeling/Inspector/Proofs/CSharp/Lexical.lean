import Inspector.Proofs.CSharp.Characters

/-!
# Lexical rules

What the language itself says about the ends of lines and about string literals,
apart from how source is generated here. Five characters end a line, a carriage
return together with the newline after it; a regular string literal is on one
line, and a quote or a backslash stands in it only with a backslash before it.

A generated literal has escapes for two of the five. The other three are bare
line ends: they stand for themselves.

**The law** (`isRegularLiteral_iff`): a generated string literal is a regular one
exactly if its content has no bare line end. Source is cut into the same lines by
the language and by its newlines exactly if no other line end stands in it
(`hostLines_eq_iff`).
-/

namespace Inspector.CSharp

open Text

/-! ## Ends of lines -/

/-- The characters that end a line. -/
def lineEnds : List Char := ['\n', '\r', '\u0085', '\u2028', '\u2029']

/-- The ends of lines without an escape. -/
def bareLineEnds : List Char := ['\u0085', '\u2028', '\u2029']

/-- What is checked for each of some characters holds of all of them. -/
theorem of_all_chars {p : Char → Prop} [DecidablePred p] {chars : List Char}
    (all : chars.all fun c => p c) : ∀ c ∈ chars, p c :=
  fun c mem => of_decide_eq_true (List.all_eq_true.mp all c mem)

theorem foreign_of_lineEnd {c : Char} (lineEnd : c ∈ lineEnds) : Foreign c where
  unprintable := of_all_chars (p := fun c => isPrintable c = false) (by decide) c lineEnd
  unnamed := of_all_chars (p := fun c => isNameChar c = false) (by decide +kernel) c lineEnd

theorem not_escaped_iff_bare {c : Char} (lineEnd : c ∈ lineEnds) :
    c ∉ escapedControls ↔ c ∈ bareLineEnds :=
  of_all_chars (p := fun c => c ∉ escapedControls ↔ c ∈ bareLineEnds) (by decide) c lineEnd

theorem lineEnd_of_bare {c : Char} (bare : c ∈ bareLineEnds) : c ∈ lineEnds :=
  of_all_chars (p := (· ∈ lineEnds)) (by decide) c bare

/-- No text of a list has a bare line end. -/
def OnOneLine (texts : List String) : Prop :=
  ∀ text ∈ texts, ∀ c ∈ text.toList, c ∉ bareLineEnds

/-- The ends of lines that a generated string literal holds are the bare ones of its
content. -/
theorem lineEnd_mem_stringLiteral_iff {c : Char} (lineEnd : c ∈ lineEnds) {value : String} :
    c ∈ stringLiteral value ↔ c ∈ bareLineEnds ∧ c ∈ value.toList := by
  rw [(foreign_of_lineEnd lineEnd).mem_stringLiteral_iff, not_escaped_iff_bare lineEnd, and_comm]

/-! ## Lines -/

/-- The lines of source as the language has them, without their ends. A carriage
return is passed over where a newline follows, so that both end one line. -/
def hostLines : List Char → List (List Char)
  | [] => [[]]
  | c :: rest =>
    if c = '\r' ∧ rest.head? = some '\n' then hostLines rest
    else if c ∈ lineEnds then [] :: hostLines rest
    else
      match hostLines rest with
      | [] => [[c]]
      | line :: lines => (c :: line) :: lines

theorem hostLines_eq_segments {text : List Char} (only : ∀ c ∈ text, c ∈ lineEnds → c = '\n') :
    hostLines text = segments '\n' text := by
  induction text with
  | nil => rfl
  | cons c rest ih =>
    obtain ⟨own, others⟩ := List.forall_mem_cons.mp only
    have pair : ¬(c = '\r' ∧ rest.head? = some '\n') := by
      rintro ⟨rfl, _⟩
      exact absurd (own (by decide)) (by decide)
    rw [hostLines, segments, if_neg pair, ih others]
    by_cases newline : c = '\n'
    · have lineEnd : c ∈ lineEnds := newline ▸ List.mem_cons_self
      rw [if_pos newline, if_pos lineEnd]
    · refine (if_neg (mt own newline)).trans (Eq.trans ?_ (if_neg newline).symm)
      cases segments '\n' rest <;> rfl

theorem lineEnd_not_mem_hostLines (text : List Char) :
    ∀ line ∈ hostLines text, ∀ c ∈ line, c ∉ lineEnds := by
  induction text with
  | nil => simp [hostLines]
  | cons c rest ih =>
    rw [hostLines]
    split
    · exact ih
    · split
      · exact List.forall_mem_cons.mpr ⟨by simp, ih⟩
      next other =>
        -- the first of the later lines gets one more character
        split
        next => simpa using other
        next line lines later =>
          rw [later] at ih
          obtain ⟨first, others⟩ := List.forall_mem_cons.mp ih
          exact List.forall_mem_cons.mpr ⟨List.forall_mem_cons.mpr ⟨other, first⟩, others⟩

/-- The newlines of a text cut it as the language does, exactly if nothing else in
it ends a line. -/
theorem hostLines_eq_iff {text : List Char} :
    hostLines text = segments '\n' text ↔ ∀ c ∈ text, c ∈ lineEnds → c = '\n' := by
  refine ⟨?_, hostLines_eq_segments⟩
  intro same c mem lineEnd
  rcases mem_segments '\n' mem with newline | ⟨line, known, mem⟩
  · exact newline
  · rw [← same] at known
    exact absurd lineEnd (lineEnd_not_mem_hostLines text line known c mem)

/-! ## String literals -/

/-- The characters that a backslash before them gives a meaning of their own. -/
def simpleEscapes : List Char :=
  ['\'', '"', '\\', '0', 'a', 'b', 'f', 'n', 'r', 't', 'v']

/-- The marks of escapes by number, each with the digits it may have. -/
def numberEscapes : List (Char × Nat) :=
  [('x', 1), ('x', 2), ('x', 3), ('x', 4), ('u', 4), ('U', 8)]

def hexDigits : List Char :=
  "0123456789abcdefABCDEF".toList

/-- What may stand between the quotes of a regular string literal. -/
inductive RegularContent : List Char → Prop where
  | nil : RegularContent []
  | plain {c : Char} {rest : List Char} (quote : c ≠ '"') (backslash : c ≠ '\\')
    (inner : c ∉ lineEnds) (content : RegularContent rest) : RegularContent (c :: rest)
  | simple {c : Char} {rest : List Char} (known : c ∈ simpleEscapes)
    (content : RegularContent rest) : RegularContent ('\\' :: c :: rest)
  | number {mark : Char} {digits rest : List Char} (known : (mark, digits.length) ∈ numberEscapes)
    (hex : ∀ d ∈ digits, d ∈ hexDigits) (content : RegularContent rest) :
    RegularContent ('\\' :: mark :: digits ++ rest)

/-- A regular string literal. -/
def IsRegularLiteral (text : List Char) : Prop :=
  ∃ content, text = '"' :: content ++ ['"'] ∧ RegularContent content

namespace RegularContent

theorem lineEnd_not_mem {content : List Char} (regular : RegularContent content) :
    ∀ c ∈ content, c ∉ lineEnds := by
  induction regular with
  | nil => exact List.forall_mem_nil _
  | plain _ _ inner _ ih => exact List.forall_mem_cons.mpr ⟨inner, ih⟩
  | @simple c _ known _ ih =>
    have escape : ∀ c ∈ simpleEscapes, c ∉ lineEnds := of_all_chars (by decide)
    exact List.forall_mem_cons.mpr
      ⟨by decide, List.forall_mem_cons.mpr ⟨escape c known, ih⟩⟩
  | @number mark digits _ known hex _ ih =>
    have marks : ∀ escape ∈ numberEscapes, escape.1 ∉ lineEnds := by decide
    have digit : ∀ d ∈ hexDigits, d ∉ lineEnds := of_all_chars (by decide)
    refine List.forall_mem_append.mpr ⟨List.forall_mem_cons.mpr ⟨by decide, ?_⟩, ih⟩
    exact List.forall_mem_cons.mpr ⟨marks _ known, fun d mem => digit d (hex d mem)⟩

theorem append_escapeChar {c : Char} {rest : List Char} (other : c ∉ bareLineEnds)
    (regular : RegularContent rest) : RegularContent (escapeChar c ++ rest) := by
  unfold escapeChar
  split
  case h_7 backslash quote newline carriage _ _ =>
    refine plain quote backslash ?_ regular
    intro lineEnd
    have all : ∀ d ∈ lineEnds, d = '\n' ∨ d = '\r' ∨ d ∈ bareLineEnds :=
      of_all_chars (by decide)
    rcases all c lineEnd with same | same | bare
    · exact newline same
    · exact carriage same
    · exact other bare
  all_goals exact simple (by decide) regular

theorem flatMap_escapeChar {text : List Char} (other : ∀ c ∈ text, c ∉ bareLineEnds) :
    RegularContent (text.flatMap escapeChar) := by
  induction text with
  | nil => exact nil
  | cons c text ih =>
    obtain ⟨own, others⟩ := List.forall_mem_cons.mp other
    rw [List.flatMap_cons]
    exact append_escapeChar own (ih others)

end RegularContent

/-- A generated string literal is a regular one, exactly if its content has no bare
line end. -/
theorem isRegularLiteral_iff {value : String} :
    IsRegularLiteral (stringLiteral value) ↔ ∀ c ∈ value.toList, c ∉ bareLineEnds := by
  constructor
  · rintro ⟨content, same, regular⟩ c mem bare
    have lineEnd := lineEnd_of_bare bare
    have within := (lineEnd_mem_stringLiteral_iff lineEnd).mpr ⟨bare, mem⟩
    have quote : c ∉ ['"'] := (foreign_of_lineEnd lineEnd).not_mem (by decide)
    rw [same, List.cons_append, (foreign_of_lineEnd lineEnd).mem_cons_iff (by decide),
      List.mem_append, or_iff_left quote] at within
    exact regular.lineEnd_not_mem c within lineEnd
  · intro other
    exact ⟨_, rfl, RegularContent.flatMap_escapeChar other⟩

end Inspector.CSharp
