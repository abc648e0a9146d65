import Inspector.Proofs.CSharp.Heads
import Inspector.Proofs.CSharp.Lines
import Inspector.Proofs.Text.Classes

/-!
# How code begins

Every line of code begins with a character of its own: not with white space, which
would pass for indentation, and not with a brace, which has a line to itself.
Declarations begin with a bracket or a word of the language. A statement begins with
an expression, and none of the characters that start quoted texts, numbers and words
is white space or a brace (`Expr.Lead.startsCode_of_starts`).
-/

namespace Inspector.CSharp

open Text

theorem not_startsIdentifier_of_blank {c : Char} (blank : isBlank c) : ¬startsIdentifier c := by
  simp only [startsIdentifier, not_isAlphabetic_of_blank blank, Bool.or_false, beq_iff_eq]
  rintro rfl
  exact absurd blank (by decide)

/-! ## Beginnings -/

/-- May begin a line of code. -/
def startsCode (c : Char) : Bool :=
  !isBlank c && c != '{' && c != '}'

/-- A text begins as a line of code does. -/
def Begins (text : List Char) : Prop :=
  ∃ c rest, text = c :: rest ∧ startsCode c

theorem begins_cons {c : Char} (h : startsCode c) (rest : List Char) : Begins (c :: rest) :=
  ⟨c, rest, rfl, h⟩

namespace Begins

variable {text : List Char}

theorem append (h : Begins text) (rest : List Char) : Begins (text ++ rest) := by
  obtain ⟨c, more, rfl, start⟩ := h
  exact begins_cons start (more ++ rest)

theorem ne_nil (h : Begins text) : text ≠ [] := by
  obtain ⟨c, more, rfl, _⟩ := h
  exact List.cons_ne_nil c more

theorem ne_cons (h : Begins text) {c : Char} (other : startsCode c = false) (rest : List Char) :
    text ≠ c :: rest := by
  obtain ⟨d, more, rfl, start⟩ := h
  intro same
  rw [(List.cons.inj same).1, other] at start
  cases start

theorem stops_space (h : Begins text) : Stops (· == ' ') text := by
  intro c more same
  rw [beq_eq_false_iff_ne]
  rintro rfl
  exact h.ne_cons (by decide) more same

theorem tidy_outer (h : Begins text) (newline : '\n' ∉ text) : (Line.outer text).Tidy :=
  ⟨h.stops_space, h.ne_nil, newline⟩

theorem brace_ne_outer (h : Begins text) : Line.outer ['{'] ≠ Line.outer text := by
  intro same
  exact h.ne_cons (by decide) [] (Line.code.inj same).2.symm

end Begins

/-! ## Expressions -/

namespace Expr

theorem Lead.startsCode_of_starts {lead : Lead} {c : Char} (h : lead.starts c) :
    startsCode c := by
  cases lead with
  | quoted =>
    rw [beq_iff_eq.mp h]
    decide
  | numeric =>
    rcases Bool.or_eq_true _ _ ▸ h with minus | digit
    · rw [beq_iff_eq.mp minus]
      decide
    · exact holds_of_digit (by decide) digit
  | verbal =>
    have brace {d : Char} (none : startsIdentifier d = false) : c ≠ d := by
      rintro rfl
      rw [Lead.starts, none] at h
      cases h
    have shown : isBlank c = false :=
      Bool.eq_false_iff.mpr fun blank => not_startsIdentifier_of_blank blank h
    simp [startsCode, shown, brace (d := '{') (by decide), brace (d := '}') (by decide)]

theorem begins {e : Expr} (named : WellNamed e.slots) : Begins e.text := by
  obtain ⟨c, more, _, text, start⟩ := text_cons named
  rw [text]
  exact begins_cons (Lead.startsCode_of_starts start) more

end Expr

end Inspector.CSharp
