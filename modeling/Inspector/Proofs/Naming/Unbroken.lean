import Inspector.Proofs.Naming.Breaks

/-!
# Display names shown again

A display name is broken into its words already. Where it has no space the name did
not break, and a space next to a character never makes it break (`unbroken_spellFrom`):
so a spelling is written as it is.

Only its first character is another one, with a capital form for a small letter, and
that might begin an acronym. For a letter of the basic alphabet it does not, since a
capital behind the small letter stood apart from it already (`unbroken_capital`). For
others it may: the capital form of `ß` is two capitals, and before a small letter they
are an acronym.

**The law** (`displayName_unchanged`): the display name of an identifier in the basic
alphabet has no prefix, breaks nowhere, begins with a capital if it can, and is its own
display name.
-/

namespace Inspector.Naming

open CSharp Text

/-! ## Text that breaks nowhere -/

/-- No character of a text is an underscore or begins a word. -/
def Unbroken : Option Char → List Char → Prop
  | _, [] => True
  | before, c :: rest =>
    c ≠ '_' ∧ beginsWord before c rest.head? = false ∧ Unbroken (some c) rest

theorem writeWords_unbroken {text : List Char} {before : Option Char} (h : Unbroken before text)
    (written : List Char) : writeWords written before text = text.reverse ++ written := by
  induction text generalizing before written with
  | nil => rfl
  | cons c rest ih =>
    obtain ⟨letter, inner, later⟩ := h
    rw [writeWords, if_neg letter, inner, if_neg Bool.false_ne_true, ih later]
    simp

/-- What breaks nowhere is written as it is. -/
theorem words_unbroken {text : List Char} (h : Unbroken none text) : words text = text := by
  rw [words, writeWords_unbroken h, List.append_nil, List.reverse_reverse]

/-! ## Spellings -/

theorem beginsWord_space (before : Char) (after : Option Char) :
    beginsWord (some before) ' ' after = false := by
  have capital : isUppercase ' ' = false := by decide
  have digit : isAsciiDigit ' ' = false := by decide
  unfold beginsWord
  split <;> simp [capital, digit]

theorem beginsWord_behind_space (c : Char) (after : Option Char) :
    beginsWord (some ' ') c after = false := by
  have small : isLowercase ' ' = false := by decide
  have capital : isUppercase ' ' = false := by decide
  have digit : isAsciiDigit ' ' = false := by decide
  have letter : isAlphabetic ' ' = false := by decide
  simp [beginsWord, small, capital, digit, letter]

/-- A word that does not begin in one place does not begin there when less is known to be
a small letter behind it. -/
theorem beginsWord_of_after {before c : Char} {after other : Option Char}
    (inner : beginsWord (some before) c after = false)
    (fewer : other.any isLowercase → after.any isLowercase) :
    beginsWord (some before) c other = false := by
  by_cases letter : before = '_'
  · subst letter
    rfl
  · rw [← Bool.not_eq_true, beginsWord_iff letter] at inner ⊢
    intro breaks
    refine inner ?_
    cases breaks with
    | rise small capital => exact .rise small capital
    | acronym capital last small => exact .acronym capital last (fewer small)
    | number letter digit => exact .number letter digit
    | numberEnd digit lead => exact .numberEnd digit lead

/-- What is spelled next is nothing, a space, or the next character. -/
theorem head_spellFrom (before : Char) (parted : Bool) (rest : List Char) :
    (spellFrom before parted rest).head? = none ∨
      (spellFrom before parted rest).head? = some ' ' ∨
        parted = false ∧ (spellFrom before parted rest).head? = rest.head? := by
  induction rest generalizing parted with
  | nil => exact .inl rfl
  | cons c rest ih =>
    by_cases letter : c = '_'
    · subst letter
      rcases ih true with none | space | ⟨none, _⟩
      · exact .inl none
      · exact .inr (.inl space)
      · cases none
    · rw [spellFrom_cons letter]
      rcases gap_eq before parted c rest.head? with none | space
      · exact .inr (.inr ⟨(gap_eq_nil_iff.mp none).1, by rw [none]; rfl⟩)
      · exact .inr (.inl (by rw [space]; rfl))

theorem isLowercase_head_spellFrom {before : Char} {rest : List Char}
    (small : (spellFrom before false rest).head?.any isLowercase) :
    rest.head?.any isLowercase := by
  rcases head_spellFrom before false rest with none | space | ⟨_, next⟩
  · rw [none] at small
    cases small
  · rw [space] at small
    exact absurd small (by decide)
  · rwa [next] at small

theorem unbroken_spellFrom (before : Char) (parted : Bool) (rest : List Char) :
    Unbroken (some before) (spellFrom before parted rest) := by
  induction rest generalizing before parted with
  | nil => trivial
  | cons c rest ih =>
    by_cases letter : c = '_'
    · subst letter
      exact ih before true
    · have later := ih c false
      rw [spellFrom_cons letter]
      rcases gap_eq before parted c rest.head? with none | space
      · have inner := (gap_eq_nil_iff.mp none).2
        rw [none]
        exact ⟨letter, beginsWord_of_after inner isLowercase_head_spellFrom, later⟩
      · rw [space]
        exact ⟨by decide, beginsWord_space _ _, letter, beginsWord_behind_space _ _, later⟩

/-! ## The capital at the start -/

theorem toUpper_of_not_small {c : Char} (ascii : isAscii c) (other : isLowercase c = false) :
    c.toUpper = c :=
  of_ascii (p := fun c => isLowercase c = false → c.toUpper = c) (by decide) ascii other

/-- A letter of the basic alphabet breaks from what is behind it, if its capital does. -/
theorem unbroken_capital {c : Char} (ascii : isAscii c) (letter : c ≠ '_') {text : List Char}
    (h : Unbroken (some c) text) : Unbroken (some c.toUpper) text := by
  cases text with
  | nil => trivial
  | cons d rest =>
    obtain ⟨own, inner, later⟩ := h
    refine ⟨own, ?_, later⟩
    by_cases small : isLowercase c
    · have known : isAlphabetic c ∧ c.toUpper ≠ '_' :=
        of_ascii (p := fun c => isLowercase c → isAlphabetic c ∧ c.toUpper ≠ '_') (by decide)
          ascii small
      rw [← Bool.not_eq_true, beginsWord_iff letter] at inner
      rw [← Bool.not_eq_true, beginsWord_iff known.2]
      intro breaks
      -- a capital or a digit behind the small letter would have been a break before
      cases breaks with
      | rise _ capital => exact inner (.rise small capital)
      | acronym _ last _ => exact inner (.rise small last)
      | number _ digit => exact inner (.number known.1 digit)
      | numberEnd _ lead => exact inner (.rise small lead)
    · rwa [toUpper_of_not_small ascii (Bool.eq_false_iff.mpr small)]

/-! ## The law -/

section Identifier

variable {name : String} (h : isIdentifier name) (ascii : ∀ c ∈ name.toList, isAscii c)
include h ascii

/-- Nothing is shown, or a capital form and a spelling behind it. -/
theorem displayName_cases : (displayName name).toList = [] ∨ ∃ c rest, isAscii c ∧ c ≠ '_' ∧
    isBlank c = false ∧ (∀ d ∈ rest, isBlank d = false) ∧
      (displayName name).toList = c.toUpper :: spellFrom c false rest := by
  rw [toList_displayName h]
  rcases spell_cases (stripPrefix name.toList) with ⟨_, none⟩ | ⟨k, c, rest, split, letter, spelled⟩
  · exact .inl (by rw [none]; rfl)
  · have known {d : Char} (mem : d ∈ c :: rest) : d ∈ stripPrefix name.toList := by
      rw [split]
      exact List.mem_append_right _ mem
    have narrow : isAscii c :=
      ascii c ((suffix_stripPrefix _).subset (known List.mem_cons_self))
    have capital : capital c = [c.toUpper] := if_pos narrow
    refine .inr ⟨c, rest, narrow, letter, ?_, ?_, ?_⟩
    · exact not_isBlank_of_mem h (known List.mem_cons_self)
    · exact fun d mem => not_isBlank_of_mem h (known (List.mem_cons_of_mem c mem))
    · rw [spelled, capitalize, capital]
      rfl

/-- A display name does not end in white space. -/
theorem trimEnd_displayName : trimEnd (displayName name).toList = (displayName name).toList := by
  rcases displayName_cases h ascii with none | ⟨c, rest, narrow, _, solid, others, text⟩
  · rw [none]
    rfl
  · have free : ' ' ∉ rest := fun mem => absurd (others ' ' mem) (by decide)
    have upper : isBlank c.toUpper = false :=
      of_ascii (p := fun c => isBlank c = false → isBlank c.toUpper = false) (by decide) narrow
        solid
    refine trimEnd_eq_self fun d last => ?_
    have solidLast : d ≠ ' ' := by
      rintro rfl
      rcases displayName_spaced h with none | spaced
      · rw [none] at last
        cases last
      · exact spaced.getLast last
    have mem := List.mem_of_getLast? last
    rw [text] at mem
    rcases List.mem_cons.mp mem with rfl | mem
    · exact upper
    · have within : d ∈ (spellFrom c false rest).filter (· ≠ ' ') :=
        List.mem_filter.mpr ⟨mem, by simpa using solidLast⟩
      rw [filter_spellFrom free] at within
      exact others d (List.mem_filter.mp within).1

/-- The display name of an identifier in the basic alphabet is left as it is by all
that makes a display name: no prefix is dropped, no word begins in it, and its first
character has no other capital form. So it is its own display name. -/
theorem displayName_unchanged :
    stripPrefix (displayName name).toList = (displayName name).toList ∧
      words (displayName name).toList = (displayName name).toList ∧
      capitalize (displayName name).toList = (displayName name).toList ∧
      displayName (displayName name) = displayName name := by
  have trimmed := trimEnd_displayName h ascii
  have unchanged : stripPrefix (displayName name).toList = (displayName name).toList ∧
      words (displayName name).toList = (displayName name).toList ∧
      capitalize (displayName name).toList = (displayName name).toList := by
    rcases displayName_cases h ascii with none | ⟨c, rest, narrow, letter, _, _, text⟩
    · rw [none]
      exact ⟨rfl, rfl, rfl⟩
    · have plain : c.toUpper ∉ ['m', 'k', '_'] :=
        of_ascii (p := fun c => c ≠ '_' → c.toUpper ∉ ['m', 'k', '_']) (by decide) narrow letter
      have unbroken : Unbroken none (c.toUpper :: spellFrom c false rest) :=
        ⟨fun same => plain (by simp [same]), rfl,
          unbroken_capital narrow letter (unbroken_spellFrom c false rest)⟩
      have capital : capital c.toUpper = [c.toUpper] :=
        of_ascii (p := fun c => capital c.toUpper = [c.toUpper]) (by decide) narrow
      rw [text]
      exact ⟨stripPrefix_eq_self plain _, words_unbroken unbroken, by rw [capitalize, capital]; rfl⟩
  obtain ⟨prefixless, unbroken, capital⟩ := unchanged
  refine ⟨prefixless, unbroken, capital, ?_⟩
  rw [displayName, prefixless, unbroken, trimmed, capital, String.ofList_toList]

end Identifier

/-- Two prefixes, an acronym, a number with a small letter, and underscores. -/
theorem displayName_unchanged_marked :
    isIdentifier "m_kHTMLParser_2x__" ∧ (∀ c ∈ "m_kHTMLParser_2x__".toList, isAscii c) ∧
      stripPrefix (displayName "m_kHTMLParser_2x__").toList =
        (displayName "m_kHTMLParser_2x__").toList ∧
      words (displayName "m_kHTMLParser_2x__").toList =
        (displayName "m_kHTMLParser_2x__").toList ∧
      capitalize (displayName "m_kHTMLParser_2x__").toList =
        (displayName "m_kHTMLParser_2x__").toList ∧
      displayName (displayName "m_kHTMLParser_2x__") = displayName "m_kHTMLParser_2x__" :=
  have identifier : isIdentifier "m_kHTMLParser_2x__" := by decide +kernel
  have ascii : ∀ c ∈ "m_kHTMLParser_2x__".toList, isAscii c := of_all_chars (by decide)
  ⟨identifier, ascii, displayName_unchanged identifier ascii⟩

example : displayName "m_kHTMLParser_2x__" = "K HTML Parser 2x" := by decide +kernel

/-- Outside the basic alphabet a capital form may begin an acronym. -/
example : displayName "_ßa" = "SSa" ∧ displayName "SSa" = "S Sa" := by decide +kernel

end Inspector.Naming
