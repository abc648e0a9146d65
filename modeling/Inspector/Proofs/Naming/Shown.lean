import Inspector.Proofs.CSharp.Lexical
import Inspector.Proofs.Naming.Spelling

/-!
# The characters of a display name

The words of a display name have single spaces between them, and no more spaces
(`SingleSpaced`); without its spaces it is what is shown of the name, with a capital
at its start.

**The law** (`displayName_tidy`): both together, for every identifier. So nothing is
lost and nothing is moved, and no character comes in but a space or a part of a capital
form. In particular the display name of an identifier is on one line
(`lineEnd_not_mem_displayName`).

A display name is empty exactly if nothing is shown (`displayName_eq_empty_iff`). That
is so for underscores alone, and also for `m_` with nothing but underscores behind it:
the prefix is dropped if anything is left, shown or not (`unlabeled_member`).
-/

namespace Inspector.Naming

open CSharp Text

/-! ## Spaces -/

/-- Characters with single spaces between some of them. -/
inductive SingleSpaced : List Char → Prop where
  | last {c : Char} (solid : c ≠ ' ') : SingleSpaced [c]
  | next {c : Char} {rest : List Char} (solid : c ≠ ' ') (more : SingleSpaced rest) :
    SingleSpaced (c :: rest)
  | space {c : Char} {rest : List Char} (solid : c ≠ ' ') (more : SingleSpaced rest) :
    SingleSpaced (c :: ' ' :: rest)

namespace SingleSpaced

variable {text : List Char}

theorem head (h : SingleSpaced text) : text.head? ≠ some ' ' := by
  cases h <;> simpa

theorem getLast (h : SingleSpaced text) : text.getLast? ≠ some ' ' := by
  induction h with
  | last solid => simpa
  | next solid more ih => cases more <;> simpa [List.getLast?_cons_cons] using ih
  | space solid more ih => cases more <;> simpa [List.getLast?_cons_cons] using ih

theorem not_infix (h : SingleSpaced text) : ¬[' ', ' '] <:+: text := by
  have first {c : Char} (solid : c ≠ ' ') (rest : List Char) : ¬[' ', ' '] <+: c :: rest :=
    fun start => solid (List.cons_prefix_cons.mp start).1.symm
  induction h with
  | last solid =>
    rw [List.infix_cons_iff, not_or]
    exact ⟨first solid [], by simp⟩
  | next solid more ih =>
    rw [List.infix_cons_iff, not_or]
    exact ⟨first solid _, ih⟩
  | @space c rest solid more ih =>
    have second : ¬[' ', ' '] <+: ' ' :: rest := by
      intro start
      obtain ⟨tail, same⟩ := (List.cons_prefix_cons.mp start).2
      exact more.head (by rw [← same]; rfl)
    rw [List.infix_cons_iff, List.infix_cons_iff, not_or, not_or]
    exact ⟨first solid _, second, ih⟩

/-- The first character may be replaced by others. -/
theorem append {c : Char} {rest front : List Char} (h : SingleSpaced (c :: rest))
    (some : front ≠ []) (solid : ' ' ∉ front) : SingleSpaced (front ++ rest) := by
  induction front with
  | nil => exact absurd rfl some
  | cons d more ih =>
    have own : d ≠ ' ' := fun same => solid (same ▸ List.mem_cons_self)
    cases more with
    | nil =>
      cases h with
      | last => exact .last own
      | next _ more => exact .next own more
      | space _ more => exact .space own more
    | cons e more =>
      exact .next own (ih (List.cons_ne_nil e more) fun mem => solid (List.mem_cons_of_mem d mem))

end SingleSpaced

theorem singleSpaced_spellFrom {before : Char} {rest : List Char} (solid : before ≠ ' ')
    (others : ' ' ∉ rest) (parted : Bool) :
    SingleSpaced (before :: spellFrom before parted rest) := by
  induction rest generalizing before parted with
  | nil => exact .last solid
  | cons c rest ih =>
    obtain ⟨own, later⟩ := List.ne_and_not_mem_of_not_mem_cons others
    by_cases letter : c = '_'
    · subst letter
      exact ih solid later true
    · have more := ih (Ne.symm own) later false
      rw [spellFrom_cons letter]
      rcases gap_eq before parted c rest.head? with none | space
      · rw [none]
        exact .next solid more
      · rw [space]
        exact .space solid more

theorem spell_spaced {name : List Char} (solid : ' ' ∉ name) :
    spell name = [] ∨ SingleSpaced (spell name) := by
  rcases spell_cases name with ⟨_, none⟩ | ⟨k, c, rest, rfl, _, spelled⟩
  · exact .inl none
  · have later := mt (List.mem_append_right (List.replicate k '_')) solid
    obtain ⟨own, others⟩ := List.ne_and_not_mem_of_not_mem_cons later
    rw [spelled]
    exact .inr (singleSpaced_spellFrom own.symm others false)

/-! ## Characters -/

theorem filter_spellFrom {rest : List Char} (solid : ' ' ∉ rest) (before : Char) (parted : Bool) :
    (spellFrom before parted rest).filter (· ≠ ' ') = shown rest := by
  induction rest generalizing before parted with
  | nil => rfl
  | cons c rest ih =>
    obtain ⟨own, later⟩ := List.ne_and_not_mem_of_not_mem_cons solid
    by_cases letter : c = '_'
    · subst letter
      exact ih later before true
    · have none : (gap before parted c rest.head?).filter (· ≠ ' ') = [] := by
        rcases gap_eq before parted c rest.head? with none | space
        · rw [none]; rfl
        · rw [space]; rfl
      rw [spellFrom_cons letter, List.filter_append, none, List.nil_append,
        List.filter_cons_of_pos (by simpa using Ne.symm own), ih later, shown_cons letter]

theorem filter_spell {name : List Char} (solid : ' ' ∉ name) :
    (spell name).filter (· ≠ ' ') = shown name := by
  rcases spell_cases name with ⟨⟨k, rfl⟩, none⟩ | ⟨k, c, rest, rfl, letter, spelled⟩
  · rw [none, shown_replicate]
    rfl
  · have later := mt (List.mem_append_right (List.replicate k '_')) solid
    obtain ⟨own, others⟩ := List.ne_and_not_mem_of_not_mem_cons later
    rw [spelled, shown_append, shown_replicate, List.nil_append, shown_cons letter,
      List.filter_cons_of_pos (by simpa using own.symm), filter_spellFrom others]

/-- The space is nobody's capital. -/
theorem space_not_mem_capital {c : Char} (solid : c ≠ ' ') : ' ' ∉ capital c :=
  fun mem => solid (eq_of_mem_capital (by decide +kernel) mem).symm

theorem filter_capitalize {text : List Char} (start : text.head? ≠ some ' ') :
    (capitalize text).filter (· ≠ ' ') = capitalize (text.filter (· ≠ ' ')) := by
  cases text with
  | nil => rfl
  | cons c rest =>
    have solid : c ≠ ' ' := by simpa using start
    have whole : (capital c).filter (· ≠ ' ') = capital c := by
      rw [List.filter_eq_self]
      intro d mem
      rw [decide_eq_true_eq]
      rintro rfl
      exact space_not_mem_capital solid mem
    rw [List.filter_cons_of_pos (by simpa using solid), capitalize, capitalize,
      List.filter_append, whole]

/-! ## The law -/

section Identifier

variable {name : String} (h : isIdentifier name)
include h

theorem displayName_spaced :
    (displayName name).toList = [] ∨ SingleSpaced (displayName name).toList := by
  rw [toList_displayName h]
  rcases spell_spaced (space_not_mem h) with none | spaced
  · exact .inl (by rw [none]; rfl)
  · right
    cases text : spell (stripPrefix name.toList) with
    | nil =>
      rw [text] at spaced
      cases spaced
    | cons c rest =>
      rw [text] at spaced
      have solid : c ≠ ' ' := by simpa using spaced.head
      exact spaced.append (capital_ne_nil c) (space_not_mem_capital solid)

/-- Without its spaces, a display name is what is shown of its name. -/
theorem filter_displayName : (displayName name).toList.filter (· ≠ ' ') =
    capitalize (shown (stripPrefix name.toList)) := by
  have start : (spell (stripPrefix name.toList)).head? ≠ some ' ' := by
    rcases spell_spaced (space_not_mem h) with none | spaced
    · simp [none]
    · exact spaced.head
  rw [toList_displayName h, filter_capitalize start, filter_spell (space_not_mem h)]

/-- A character that is nobody's capital comes from the name. -/
theorem mem_shown_of_mem_displayName {c : Char} (uncapital : isUncapital c) (solid : c ≠ ' ')
    (mem : c ∈ (displayName name).toList) : c ∈ shown (stripPrefix name.toList) := by
  have within : c ∈ (displayName name).toList.filter (· ≠ ' ') :=
    List.mem_filter.mpr ⟨mem, by simpa using solid⟩
  rw [filter_displayName h] at within
  exact mem_of_mem_capitalize uncapital within

/-- The display name of an identifier, without its spaces, is the identifier without
its prefix and its underscores, with a capital at its start. It holds no underscore, no
space at its start or end, and no space next to another. -/
theorem displayName_tidy :
    (displayName name).toList.filter (· ≠ ' ') = capitalize (shown (stripPrefix name.toList)) ∧
      '_' ∉ (displayName name).toList ∧
      (displayName name).toList.head? ≠ some ' ' ∧ (displayName name).toList.getLast? ≠ some ' ' ∧
      ¬[' ', ' '] <:+: (displayName name).toList := by
  have underscore : '_' ∉ (displayName name).toList := by
    intro mem
    have known := mem_shown_of_mem_displayName h (by decide +kernel) (by decide) mem
    simp [shown] at known
  refine ⟨filter_displayName h, underscore, ?_⟩
  rcases displayName_spaced h with none | spaced
  · simp [none]
  · exact ⟨spaced.head, spaced.getLast, spaced.not_infix⟩

end Identifier

theorem displayName_tidy_sharp :
    isIdentifier "_ßeta__2D_" ∧
      (displayName "_ßeta__2D_").toList.filter (· ≠ ' ') =
        capitalize (shown (stripPrefix "_ßeta__2D_".toList)) ∧
      '_' ∉ (displayName "_ßeta__2D_").toList ∧
      (displayName "_ßeta__2D_").toList.head? ≠ some ' ' ∧
      (displayName "_ßeta__2D_").toList.getLast? ≠ some ' ' ∧
      ¬[' ', ' '] <:+: (displayName "_ßeta__2D_").toList :=
  have identifier : isIdentifier "_ßeta__2D_" := by decide +kernel
  ⟨identifier, displayName_tidy identifier⟩

example : displayName "_ßeta__2D_" = "SSeta 2 D" := by decide +kernel

/-! ## Lines -/

theorem lineEnd_not_mem_displayName {name : String} (h : isIdentifier name) :
    ∀ c ∈ (displayName name).toList, c ∉ lineEnds := by
  intro c mem lineEnd
  have uncapital : isUncapital c :=
    of_all_chars (p := fun c => isUncapital c) (by decide +kernel) c lineEnd
  have solid : c ≠ ' ' := by
    rintro rfl
    exact absurd lineEnd (by decide)
  have known := (List.mem_filter.mp (mem_shown_of_mem_displayName h uncapital solid mem)).1
  have named : NameForm.simple.admits name := h
  exact (foreign_of_lineEnd lineEnd).not_mem_name named ((suffix_stripPrefix _).subset known)

/-! ## Empty display names -/

theorem spell_eq_nil_iff {name : List Char} : spell name = [] ↔ shown name = [] := by
  rcases spell_cases name with ⟨⟨k, rfl⟩, none⟩ | ⟨k, c, rest, rfl, letter, spelled⟩
  · exact iff_of_true none (shown_replicate k)
  · simp [spelled, shown_append, shown_cons letter]

theorem shown_eq_nil_iff {name : List Char} : shown name = [] ↔ ∀ c ∈ name, c = '_' := by
  simp [shown]

/-- Nothing is left to be shown of underscores, and of `m_` before underscores. -/
theorem shown_stripPrefix_eq_nil_iff {name : List Char} : shown (stripPrefix name) = [] ↔
    (∀ c ∈ name, c = '_') ∨ ∃ k, name = 'm' :: List.replicate (k + 2) '_' := by
  rw [shown_eq_nil_iff]
  constructor
  · intro none
    have stripped := stripped_stripPrefix name
    generalize stripPrefix name = left at none stripped
    cases stripped with
    | member c rest =>
      have underscores := List.eq_replicate_of_mem none
      exact .inr ⟨rest.length, by rw [underscores]; rfl⟩
    | constant capital rest =>
      rw [none _ List.mem_cons_self] at capital
      exact absurd capital (by decide)
    | underscore c rest => exact .inl (List.forall_mem_cons.mpr ⟨rfl, none⟩)
    | whole => exact .inl none
  · rintro (none | ⟨k, rfl⟩)
    · exact fun c mem => none c ((suffix_stripPrefix name).subset mem)
    · exact fun c mem => List.eq_of_mem_replicate (n := k + 1) mem

/-- The display name of an identifier is empty exactly if the identifier is made of
underscores, or is `m_` with nothing but underscores behind it, and at least one. -/
theorem displayName_eq_empty_iff {name : String} (h : isIdentifier name) :
    displayName name = "" ↔
      (∀ c ∈ name.toList, c = '_') ∨ ∃ k, name.toList = 'm' :: List.replicate (k + 2) '_' := by
  have empty : displayName name = "" ↔ (displayName name).toList = [] := by simp
  rw [empty, toList_displayName h, capitalize_eq_nil_iff, spell_eq_nil_iff,
    shown_stripPrefix_eq_nil_iff]

theorem displayName_eq_empty_iff_inner :
    isIdentifier "_m__" ∧ (displayName "_m__" = "" ↔
      (∀ c ∈ "_m__".toList, c = '_') ∨ ∃ k, "_m__".toList = 'm' :: List.replicate (k + 2) '_') :=
  have identifier : isIdentifier "_m__" := by decide +kernel
  ⟨identifier, displayName_eq_empty_iff identifier⟩

/-- An identifier with a letter, and nothing to show for it. -/
theorem unlabeled_member :
    isIdentifier "m__" ∧ (∃ c ∈ "m__".toList, c ≠ '_') ∧ displayName "m__" = "" :=
  ⟨by decide +kernel, ⟨'m', by decide, by decide⟩, by decide +kernel⟩

end Inspector.Naming
