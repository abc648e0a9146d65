import Inspector.Proofs.Naming.Shown

/-!
# Where a name is broken into words

Between two neighbours in a name, the name breaks where a capital follows a small
letter, before the last capital of an acronym, and where one of the two is a digit and
the other a letter. So much for the rule as one would say it. What is done is less:
behind a digit only a capital begins a word, and any other letter stays with the number
(`small_letter_behind_digit`). The two rules differ in that one class of characters,
which is the parameter of `Breaks`.

**The law** (`gapAfter_displayName`): the display name has a space between two
neighbours exactly if the name breaks there, and one between characters that have
underscores between them. It looks at the spelling of a name up to a character and
from there on (`exists_spell_append`): what stands before a character depends on
nothing that was spelled before its neighbour.
-/

namespace Inspector.Naming

open Text

/-! ## Breaks -/

/-- A name breaks between `p` and `c`, with `after` behind them. The characters that begin
a word behind a digit are those of a class. -/
inductive Breaks (leads : Char → Bool) (p c : Char) (after : Option Char) : Prop where
  /-- A capital follows a small letter. -/
  | rise (small : isLowercase p) (capital : isUppercase c)
  /-- An acronym ends, and its last capital begins a word. -/
  | acronym (capital : isUppercase p) (last : isUppercase c) (small : after.any isLowercase)
  /-- A number begins. -/
  | number (letter : isAlphabetic p) (digit : isAsciiDigit c)
  /-- A number ends. -/
  | numberEnd (digit : isAsciiDigit p) (lead : leads c)

theorem beginsWord_iff {p : Char} (letter : p ≠ '_') (c : Char) (after : Option Char) :
    beginsWord (some p) c after ↔ Breaks isUppercase p c after := by
  have unfolded : beginsWord (some p) c after =
      ((isUppercase c && (isLowercase p || isAsciiDigit p)) ||
        (isUppercase c && isUppercase p && after.any isLowercase) ||
          (isAsciiDigit c && isAlphabetic p)) := by
    unfold beginsWord
    split
    next same => cases same
    next same => cases same; exact absurd rfl letter
    next same => cases same; rfl
  rw [unfolded]
  constructor
  · intro begins
    simp only [Bool.or_eq_true, Bool.and_eq_true] at begins
    rcases begins with (⟨capital, small | digit⟩ | ⟨⟨last, capital⟩, small⟩) | ⟨digit, letter⟩
    · exact .rise small capital
    · exact .numberEnd digit capital
    · exact .acronym capital last small
    · exact .number letter digit
  · intro breaks
    cases breaks with
    | rise small capital => simp [small, capital]
    | acronym capital last small => simp [capital, last, small]
    | number letter digit => simp [letter, digit]
    | numberEnd digit lead => simp [digit, lead]

/-! ## The spelling on both sides of a character -/

/-- The spelling from a character on is the same whatever comes before it. -/
theorem exists_spellFrom_append {c : Char} (letter : c ≠ '_') (before : Char) (parted : Bool)
    (front rest : List Char) : ∃ left,
      spellFrom before parted (front ++ c :: rest) = left ++ c :: spellFrom c false rest := by
  induction front generalizing before parted with
  | nil => exact ⟨_, spellFrom_cons letter before parted rest⟩
  | cons d front ih =>
    by_cases underscore : d = '_'
    · subst underscore
      exact ih before true
    · obtain ⟨left, spelled⟩ := ih d false
      rw [List.cons_append, spellFrom_cons underscore, spelled]
      exact ⟨_, (List.append_assoc _ (d :: left) _).symm⟩

theorem exists_spell_append {c : Char} (letter : c ≠ '_') (front rest : List Char) : ∃ left,
    spell (front ++ c :: rest) = left ++ c :: spellFrom c false rest := by
  induction front with
  | nil => exact ⟨[], spell_cons letter rest⟩
  | cons d front ih =>
    by_cases underscore : d = '_'
    · subst underscore
      exact ih
    · obtain ⟨left, spelled⟩ := exists_spellFrom_append letter d false front rest
      rw [List.cons_append, spell_cons underscore, spelled]
      exact ⟨d :: left, rfl⟩

theorem spellFrom_underscores (before : Char) (parted : Bool) (k : Nat) (rest : List Char) :
    spellFrom before parted (List.replicate k '_' ++ rest) =
      spellFrom before (parted || decide (0 < k)) rest := by
  induction k generalizing parted with
  | zero => simp
  | succ k ih =>
    rw [List.replicate_succ, List.cons_append, spellFrom_underscore, ih]
    simp

/-! ## Gaps -/

/-- The spaces behind the first `n` characters of a text, spaces not counted. -/
def gapBehind : Nat → List Char → List Char
  | 0, text => text.takeWhile (· = ' ')
  | n + 1, text => gapBehind n (text.dropWhile (· = ' ')).tail

theorem gapBehind_concat {c : Char} (solid : c ≠ ' ') (front rest : List Char) :
    gapBehind ((front.filter (· ≠ ' ')).length + 1) (front ++ c :: rest) =
      rest.takeWhile (· = ' ') := by
  induction front with
  | nil => simp [gapBehind, solid]
  | cons d front ih =>
    by_cases space : d = ' '
    · subst space
      exact ih
    · rw [List.filter_cons_of_pos (by simpa using space), List.cons_append, gapBehind,
        List.dropWhile_cons_of_neg (by simpa using space)]
      exact ih

theorem gapBehind_append {text : List Char} (solid : text.getLast? ≠ some ' ') (rest : List Char) :
    gapBehind (text.filter (· ≠ ' ')).length (text ++ rest) = rest.takeWhile (· = ' ') := by
  rcases List.eq_nil_or_concat text with rfl | ⟨front, c, rfl⟩
  · rfl
  · rw [List.concat_eq_append] at solid ⊢
    have own : c ≠ ' ' := by simpa using solid
    have length : ((front ++ [c]).filter (· ≠ ' ')).length =
        (front.filter (· ≠ ' ')).length + 1 := by
      simp [own]
    rw [length, List.append_assoc]
    exact gapBehind_concat own front rest

theorem takeWhile_gap {c : Char} (solid : c ≠ ' ') (before : Char) (parted : Bool)
    (after : Option Char) (rest : List Char) :
    (gap before parted c after ++ c :: rest).takeWhile (· = ' ') = gap before parted c after := by
  rcases gap_eq before parted c after with none | space
  · simp [none, solid]
  · simp [space, solid]

/-- What stands in a display name behind what it shows of a part at the start of the
name. -/
def gapAfter (name : String) (front : List Char) : List Char :=
  gapBehind (capitalize (shown front)).length (displayName name).toList

theorem getLast_capitalize {left : List Char} {p : Char} (solid : p ≠ ' ') :
    (capitalize (left ++ [p])).getLast? ≠ some ' ' := by
  cases left with
  | nil =>
    intro last
    have mem := List.mem_of_getLast? last
    rw [List.nil_append, capitalize, List.append_nil] at mem
    exact space_not_mem_capital solid mem
  | cons d left =>
    rw [List.cons_append, capitalize, ← List.append_assoc, List.getLast?_concat]
    simpa using solid

section Identifier

variable {name : String} (h : isIdentifier name)
include h

/-- The display name up to a character, and from there on. -/
theorem exists_displayName_append {front rest : List Char} {p : Char} (letter : p ≠ '_')
    (split : stripPrefix name.toList = front ++ p :: rest) : ∃ left,
      (displayName name).toList = capitalize (left ++ [p]) ++ spellFrom p false rest ∧
        (capitalize (left ++ [p])).filter (· ≠ ' ') = capitalize (shown (front ++ [p])) := by
  have solid := space_not_mem h
  have spaced := spell_spaced solid
  have filtered := filter_spell solid
  obtain ⟨left, spelled⟩ := exists_spell_append letter front rest
  -- `left` is known by the spelling as a whole: it has no space at its start, and without
  -- its spaces it is what is shown of `front`
  rw [split, spelled, List.append_cons] at spaced filtered
  have later : ' ' ∉ rest := by
    intro mem
    rw [split] at solid
    exact solid (List.mem_append_right _ (List.mem_cons_of_mem p mem))
  refine ⟨left, ?_, ?_⟩
  · rw [toList_displayName h, split, spelled, List.append_cons, capitalize_append (by simp)]
  · have start : (left ++ [p]).head? ≠ some ' ' := by
      rcases spaced with none | spaced
      · simp at none
      · have head := spaced.head
        cases left <;> exact head
    rw [List.filter_append, filter_spellFrom later, List.append_cons front, shown_append]
      at filtered
    rw [filter_capitalize start, List.append_cancel_right filtered]

/-- Between a character and the next one that is shown stands the gap of the spelling. -/
theorem gapAfter_eq {front back : List Char} {p c : Char} {k : Nat} (letter : p ≠ '_')
    (next : c ≠ '_')
    (split : stripPrefix name.toList = front ++ p :: (List.replicate k '_' ++ c :: back)) :
    gapAfter name (front ++ [p]) = gap p (decide (0 < k)) c back.head? := by
  have solid := space_not_mem h
  rw [split] at solid
  have first : p ≠ ' ' := by
    rintro rfl
    simp at solid
  have second : c ≠ ' ' := by
    rintro rfl
    simp at solid
  obtain ⟨left, text, filtered⟩ := exists_displayName_append h letter split
  rw [spellFrom_underscores, spellFrom_cons next, Bool.false_or] at text
  rw [gapAfter, text, ← filtered, gapBehind_append (getLast_capitalize first),
    takeWhile_gap second]

end Identifier

theorem gap_eq_space_iff {p : Char} (letter : p ≠ '_') (parted : Bool) (c : Char)
    (after : Option Char) :
    gap p parted c after = [' '] ↔ parted ∨ Breaks isUppercase p c after := by
  rw [← beginsWord_iff letter, ← Bool.or_eq_true, gap]
  split
  next begins => exact iff_of_true rfl begins
  next none => exact iff_of_false (List.cons_ne_nil _ _).symm none

/-- The display name of an identifier, without its spaces, is what is shown of the
identifier up to a character, and from the next one on that is no underscore. Between
the two stands one space, if there are underscores between them or the name breaks
there, and nothing otherwise. -/
theorem gapAfter_displayName {name : String} (h : isIdentifier name) {front back : List Char}
    {p c : Char} {k : Nat} (letter : p ≠ '_') (next : c ≠ '_')
    (split : stripPrefix name.toList = front ++ p :: (List.replicate k '_' ++ c :: back)) :
    (displayName name).toList.filter (· ≠ ' ') =
        capitalize (shown (front ++ [p])) ++ shown (c :: back) ∧
      (gapAfter name (front ++ [p]) = [' '] ↔ 0 < k ∨ Breaks isUppercase p c back.head?) ∧
      (gapAfter name (front ++ [p]) = [] ↔ ¬(0 < k ∨ Breaks isUppercase p c back.head?)) := by
  have visible : shown (stripPrefix name.toList) =
      shown (front ++ [p]) ++ shown (c :: back) := by
    rw [split, List.append_cons, shown_append, shown_append (List.replicate k '_'), shown_replicate,
      List.nil_append]
  have some : shown (front ++ [p]) ≠ [] := by
    rw [shown_append, shown_cons letter]
    simp
  refine ⟨?_, ?_, ?_⟩
  · rw [filter_displayName h, visible, capitalize_append some]
  · rw [gapAfter_eq h letter next split, gap_eq_space_iff letter, decide_eq_true_eq]
  · rw [gapAfter_eq h letter next split, gap_eq_nil_iff, not_or, ← beginsWord_iff letter,
      decide_eq_false_iff_not, Bool.not_eq_true]

/-- An acronym, a number, underscores and a small letter behind a digit. -/
theorem gapAfter_displayName_acronym :
    isIdentifier "kÜBERFall2x__y" ∧
      stripPrefix "kÜBERFall2x__y".toList =
        "ÜBE".toList ++ 'R' :: (List.replicate 0 '_' ++ 'F' :: "all2x__y".toList) ∧
      (displayName "kÜBERFall2x__y").toList.filter (· ≠ ' ') =
        capitalize (shown ("ÜBE".toList ++ ['R'])) ++ shown ('F' :: "all2x__y".toList) ∧
      (gapAfter "kÜBERFall2x__y" ("ÜBE".toList ++ ['R']) = [' '] ↔
        0 < 0 ∨ Breaks isUppercase 'R' 'F' "all2x__y".toList.head?) ∧
      (gapAfter "kÜBERFall2x__y" ("ÜBE".toList ++ ['R']) = [] ↔
        ¬(0 < 0 ∨ Breaks isUppercase 'R' 'F' "all2x__y".toList.head?)) :=
  have identifier : isIdentifier "kÜBERFall2x__y" := by decide +kernel
  have split : stripPrefix "kÜBERFall2x__y".toList =
      "ÜBE".toList ++ 'R' :: (List.replicate 0 '_' ++ 'F' :: "all2x__y".toList) := by
    decide +kernel
  ⟨identifier, split, gapAfter_displayName identifier (by decide) (by decide) split⟩

example : displayName "kÜBERFall2x__y" = "ÜBER Fall 2x y" := by decide +kernel

/-- A digit and a letter behind it. The name would break between them, if every letter
began a word there; in the display name they are not apart. -/
theorem small_letter_behind_digit :
    isIdentifier "vector3d" ∧ stripPrefix "vector3d".toList = "vector".toList ++ '3' :: ['d'] ∧
      Breaks isAlphabetic '3' 'd' none ∧ gapAfter "vector3d" ("vector".toList ++ ['3']) = [] :=
  ⟨by decide +kernel, by decide +kernel, .numberEnd (by decide) (by decide), by decide +kernel⟩

end Inspector.Naming
