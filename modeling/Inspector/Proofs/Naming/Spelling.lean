import Inspector.Naming.DisplayName
import Inspector.Proofs.CSharp.WellNamed
import Inspector.Proofs.Text.Classes

/-!
# The spelling of a display name

Words are written from left to right. An underscore puts the space for itself at the
end of what has been written, unless there is one or nothing has been written; so what
stands at an end depends on what was there before, and the last of it may be trimmed.

The spelling (`spell`) is the same text said from the other side: a space belongs to
the character behind it, and stands there if underscores come between that character
and the last one that is shown, or if a word begins with it. Nothing that was written
is looked at, and nothing is trimmed.

**The law** (`trimEnd_words`): for a name without white space the two agree. It goes by
one induction on the rest of a name, in which the space that is written and the space
that is still owed are the same (`dropWhile_writeWords`).
-/

namespace Inspector.Naming

open CSharp Text

/-! ## Prefixes -/

/-- A name with what is left of it without its prefix. -/
inductive Stripped : List Char → List Char → Prop where
  | member (c : Char) (rest : List Char) : Stripped ('m' :: '_' :: c :: rest) (c :: rest)
  | constant {c : Char} (capital : isUppercase c) (rest : List Char) :
    Stripped ('k' :: c :: rest) (c :: rest)
  | underscore (c : Char) (rest : List Char) : Stripped ('_' :: c :: rest) (c :: rest)
  | whole (name : List Char) : Stripped name name

theorem stripped_of_member {name rest : List Char} (dropped : dropMemberMark? name = some rest) :
    Stripped name rest := by
  unfold dropMemberMark? at dropped
  split at dropped <;> cases dropped
  exact .member _ _

theorem stripped_of_constant {name rest : List Char}
    (dropped : dropConstantMark? name = some rest) : Stripped name rest := by
  unfold dropConstantMark? at dropped
  split at dropped
  · split at dropped
    next capital =>
      cases dropped
      exact .constant capital _
    next => cases dropped
  · cases dropped

theorem stripped_of_underscore {name rest : List Char}
    (dropped : dropUnderscore? name = some rest) : Stripped name rest := by
  unfold dropUnderscore? at dropped
  split at dropped <;> cases dropped
  exact .underscore _ _

theorem stripped_stripPrefix (name : List Char) : Stripped name (stripPrefix name) := by
  rw [stripPrefix]
  cases dropped : ((dropMemberMark? name).or (dropConstantMark? name)).or
    (dropUnderscore? name) with
  | none => exact .whole name
  | some rest =>
    rcases Option.or_eq_some_iff.mp dropped with marked | ⟨_, marked⟩
    · rcases Option.or_eq_some_iff.mp marked with marked | ⟨_, marked⟩
      · exact stripped_of_member marked
      · exact stripped_of_constant marked
    · exact stripped_of_underscore marked

theorem Stripped.suffix {name rest : List Char} (h : Stripped name rest) : rest <:+ name := by
  cases h with
  | member c rest => exact ⟨['m', '_'], rfl⟩
  | constant _ rest => exact ⟨['k'], rfl⟩
  | underscore c rest => exact ⟨['_'], rfl⟩
  | whole name => exact List.suffix_refl name

theorem suffix_stripPrefix (name : List Char) : stripPrefix name <:+ name :=
  (stripped_stripPrefix name).suffix

/-- A name keeps its first character, if no prefix begins with it. -/
theorem stripPrefix_eq_self {c : Char} (plain : c ∉ ['m', 'k', '_']) (rest : List Char) :
    stripPrefix (c :: rest) = c :: rest := by
  have stripped := stripped_stripPrefix (c :: rest)
  generalize stripPrefix (c :: rest) = left at stripped ⊢
  cases stripped with
  | member => exact absurd (by decide) plain
  | constant => exact absurd (by decide) plain
  | underscore => exact absurd (by decide) plain
  | whole => rfl

/-! ## Spelling -/

/-- The characters of a name that are shown: all but its underscores. -/
def shown (name : List Char) : List Char :=
  name.filter (· ≠ '_')

/-- What stands before `c` when `before` was shown last, `parted` from it or not. -/
def gap (before : Char) (parted : Bool) (c : Char) (after : Option Char) : List Char :=
  if parted || beginsWord (some before) c after then [' '] else []

/-- The spelling of the rest of a name. -/
def spellFrom (before : Char) (parted : Bool) : List Char → List Char
  | [] => []
  | c :: rest =>
    if c = '_' then spellFrom before true rest
    else gap before parted c rest.head? ++ c :: spellFrom c false rest

/-- The spelling of a name. -/
def spell : List Char → List Char
  | [] => []
  | c :: rest => if c = '_' then spell rest else c :: spellFrom c false rest

theorem gap_eq (before : Char) (parted : Bool) (c : Char) (after : Option Char) :
    gap before parted c after = [] ∨ gap before parted c after = [' '] := by
  unfold gap
  split
  · exact .inr rfl
  · exact .inl rfl

theorem gap_eq_nil_iff {before : Char} {parted : Bool} {c : Char} {after : Option Char} :
    gap before parted c after = [] ↔ parted = false ∧ beginsWord (some before) c after = false := by
  rw [← Bool.or_eq_false_iff, gap]
  split
  next apart => simp [apart]
  next joined => exact iff_of_true rfl (Bool.eq_false_iff.mpr joined)

theorem spellFrom_underscore (before : Char) (parted : Bool) (rest : List Char) :
    spellFrom before parted ('_' :: rest) = spellFrom before true rest := rfl

theorem spellFrom_cons {c : Char} (letter : c ≠ '_') (before : Char) (parted : Bool)
    (rest : List Char) : spellFrom before parted (c :: rest) =
      gap before parted c rest.head? ++ c :: spellFrom c false rest := by
  rw [spellFrom, if_neg letter]

theorem spell_cons {c : Char} (letter : c ≠ '_') (rest : List Char) :
    spell (c :: rest) = c :: spellFrom c false rest := by
  rw [spell, if_neg letter]

/-- A name is made of underscores, or has a first character that is shown. -/
theorem spell_cases (name : List Char) :
    (∃ k, name = List.replicate k '_') ∧ spell name = [] ∨
      ∃ k c rest, name = List.replicate k '_' ++ c :: rest ∧ c ≠ '_' ∧
        spell name = c :: spellFrom c false rest := by
  induction name with
  | nil => exact .inl ⟨⟨0, rfl⟩, rfl⟩
  | cons c rest ih =>
    by_cases letter : c = '_'
    · subst letter
      rcases ih with ⟨⟨k, rfl⟩, none⟩ | ⟨k, c, rest, rfl, letter, spelled⟩
      · exact .inl ⟨⟨k + 1, rfl⟩, none⟩
      · exact .inr ⟨k + 1, c, rest, rfl, letter, spelled⟩
    · exact .inr ⟨0, c, rest, rfl, letter, spell_cons letter rest⟩

theorem shown_cons {c : Char} (letter : c ≠ '_') (rest : List Char) :
    shown (c :: rest) = c :: shown rest :=
  List.filter_cons_of_pos (by simpa using letter)

theorem shown_append (front back : List Char) : shown (front ++ back) = shown front ++ shown back :=
  List.filter_append ..

theorem shown_replicate (k : Nat) : shown (List.replicate k '_') = [] := by
  simp [shown]

/-! ## The law -/

/-- What has been written up to the rest of a name: it ends in the last character that
was shown, and a space if underscores came after it. -/
def reached (written : List Char) (before : Char) (parted : Bool) : List Char :=
  if parted then ' ' :: before :: written else before :: written

theorem spaced_reached {before : Char} (solid : isBlank before = false) (written : List Char)
    (parted : Bool) : spaced (reached written before parted) = ' ' :: before :: written := by
  cases parted with
  | false =>
    have other : before ≠ ' ' := by
      rintro rfl
      exact absurd solid (by decide)
    exact if_neg (by simpa [reached] using other)
  | true => rfl

/-- The step of the induction: a character that is shown is written behind its gap. -/
theorem writeWords_reached {before c : Char} (solid : isBlank before = false) (letter : c ≠ '_')
    (written : List Char) (parted : Bool) (rest : List Char) :
    writeWords (reached written before parted) (some (if parted then '_' else before)) (c :: rest) =
      writeWords (c :: (gap before parted c rest.head? ++ before :: written)) (some c) rest := by
  rw [writeWords, if_neg letter, spaced_reached solid]
  cases parted with
  | true => rfl
  | false =>
    simp only [Bool.false_eq_true, if_false, gap, Bool.false_or]
    split <;> rfl

/-- By induction on the rest of the name. The last of the written text may be a space for
underscores; the spelling owes it to the next character, and at the end it is dropped. -/
theorem dropWhile_writeWords {before : Char} {rest : List Char} (solid : isBlank before = false)
    (others : ∀ c ∈ rest, isBlank c = false) (written : List Char) (parted : Bool) :
    (writeWords (reached written before parted) (some (if parted then '_' else before))
      rest).dropWhile isBlank = (spellFrom before parted rest).reverse ++ before :: written := by
  induction rest generalizing before written parted with
  | nil =>
    have kept : (before :: written).dropWhile isBlank = before :: written :=
      List.dropWhile_cons_of_neg (by simp [solid])
    cases parted with
    | false => exact kept
    | true => exact (List.dropWhile_cons_of_pos rfl).trans kept
  | cons c rest ih =>
    obtain ⟨own, later⟩ := List.forall_mem_cons.mp others
    by_cases letter : c = '_'
    · subst letter
      have some : (reached written before parted).isEmpty = false := by cases parted <;> rfl
      rw [writeWords, if_pos rfl, some, if_neg Bool.false_ne_true, spaced_reached solid]
      exact ih solid later written true
    · rw [writeWords_reached solid letter, spellFrom_cons letter]
      have step := ih own later (gap before parted c rest.head? ++ before :: written) false
      refine Eq.trans step ?_
      rcases gap_eq before parted c rest.head? with none | space
      · simp [none]
      · simp [space]

/-- Underscores at the start leave no trace. -/
theorem dropWhile_writeWords_nil {name : List Char} (solid : ∀ c ∈ name, isBlank c = false)
    {before : Option Char} (start : before = none ∨ before = some '_') :
    (writeWords [] before name).dropWhile isBlank = (spell name).reverse := by
  induction name generalizing before with
  | nil => rfl
  | cons c rest ih =>
    obtain ⟨own, others⟩ := List.forall_mem_cons.mp solid
    by_cases letter : c = '_'
    · subst letter
      exact ih others (.inr rfl)
    · have inner : beginsWord before c rest.head? = false := by
        rcases start with rfl | rfl <;> rfl
      rw [writeWords, if_neg letter, inner, if_neg Bool.false_ne_true, spell_cons letter,
        List.reverse_cons]
      exact dropWhile_writeWords own others [] false

/-- What is written of a name without white space is its spelling. -/
theorem trimEnd_words {name : List Char} (solid : ∀ c ∈ name, isBlank c = false) :
    trimEnd (words name) = spell name := by
  rw [trimEnd, words, List.reverse_reverse, dropWhile_writeWords_nil solid (.inl rfl),
    List.reverse_reverse]

/-! ## Identifiers -/

theorem not_isBlank_of_continues {c : Char} (h : continuesIdentifier c) : isBlank c = false := by
  rw [Bool.eq_false_iff]
  intro blank
  rw [continuesIdentifier, not_isAlphanumeric_of_blank blank, Bool.or_false, beq_iff_eq] at h
  subst h
  exact absurd blank (by decide)

section Identifier

variable {name : String} (h : isIdentifier name)
include h

/-- No white space is left of an identifier. -/
theorem not_isBlank_of_mem {c : Char} (mem : c ∈ stripPrefix name.toList) : isBlank c = false :=
  not_isBlank_of_continues (continuesIdentifier_of_mem h ((suffix_stripPrefix _).subset mem))

theorem space_not_mem : ' ' ∉ stripPrefix name.toList :=
  fun mem => absurd (not_isBlank_of_mem h mem) (by decide)

/-- The display name of an identifier is the spelling of what is left of it, with a
capital at its start. -/
theorem toList_displayName :
    (displayName name).toList = capitalize (spell (stripPrefix name.toList)) := by
  rw [displayName, String.toList_ofList, trimEnd_words fun _ => not_isBlank_of_mem h]

end Identifier

end Inspector.Naming
