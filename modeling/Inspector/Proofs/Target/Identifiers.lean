import Inspector.Proofs.CSharp.WellNamed

/-!
# Identifiers and dotted names

Names are derived from names: a word is put behind an identifier, or a segment
behind a dotted name. The result is a name again (`isIdentifier_append`,
`isDottedName_append`). For identifiers the one thing to see to is that no
reserved word comes out. Reserved words are in small letters, so a capital in
what is added is enough.

A dotted name is defined by cutting it at its dots. Read the other way, it is
what putting dots between identifiers gives (`isDottedName_iff`): no identifier
holds a dot, so that cutting finds exactly the identifiers again.
-/

namespace Inspector

open Text CSharp

/-! ## Identifiers -/

theorem isLower_of_keyword {word : String} (h : word ∈ keywords) :
    ∀ c ∈ word.toList, c.isLower := by
  have all : ∀ word ∈ keywords, word.toList.all Char.isLower := by decide +kernel
  exact List.all_eq_true.mp (all word h)

theorem dot_not_mem {name : String} (h : isIdentifier name) : '.' ∉ name.toList := by
  intro mem
  have continues := continuesIdentifier_of_mem h mem
  exact absurd continues (by decide)

/-- A text in the shape of an identifier is one, if one of its characters is in no
reserved word. -/
theorem isIdentifier_of_shape {name : String} (shape : hasIdentifierShape name.toList)
    (foreign : ∃ c ∈ name.toList, ¬c.isLower) : isIdentifier name := by
  have unreserved : name ∉ keywords := by
    intro reserved
    obtain ⟨c, mem, upper⟩ := foreign
    exact upper (isLower_of_keyword reserved c mem)
  rw [isIdentifier, shape]
  simpa using unreserved

/-- An identifier with more of its characters behind it is an identifier, if one of
them is in no reserved word. -/
theorem isIdentifier_append {name ending : String} (h : isIdentifier name)
    (continues : ∀ c ∈ ending.toList, continuesIdentifier c)
    (foreign : ∃ c ∈ ending.toList, ¬c.isLower) : isIdentifier (name ++ ending) := by
  apply isIdentifier_of_shape
  · obtain ⟨c, rest, text, starts, all⟩ := identifier_cons h
    rw [String.toList_append, text, List.cons_append, hasIdentifierShape, Bool.and_eq_true,
      List.all_eq_true]
    refine ⟨starts, ?_⟩
    intro d mem
    rcases List.mem_append.mp mem with mem | mem
    · exact all d (List.mem_cons_of_mem _ mem)
    · exact continues d mem
  · obtain ⟨c, mem, upper⟩ := foreign
    refine ⟨c, ?_, upper⟩
    rw [String.toList_append]
    exact List.mem_append_right _ mem

/-! ## Dotted names -/

/-- A dotted name is made of identifiers with dots between them. -/
theorem isDottedName_iff {text : String} : isDottedName text ↔
    ∃ names, names ≠ [] ∧ (∀ name ∈ names, isIdentifier name) ∧ text = ".".intercalate names := by
  rw [isDottedName, List.all_eq_true, segments_eq_splitOn]
  constructor
  · intro pieces
    refine ⟨(text.toList.splitOn '.').map String.ofList, by simp, by simpa using pieces, ?_⟩
    apply String.toList_injective
    rw [String.toList_intercalate, List.map_map]
    simp only [Function.comp_def, String.toList_ofList, List.map_id']
    exact (List.intercalate_splitOn '.').symm
  · rintro ⟨names, some, identifiers, rfl⟩ piece mem
    -- no identifier holds a dot, so cutting at the dots gives back what was joined
    have free : ∀ letters ∈ names.map String.toList, '.' ∉ letters := by
      intro letters mem
      obtain ⟨name, named, rfl⟩ := List.mem_map.mp mem
      exact dot_not_mem (identifiers name named)
    rw [String.toList_intercalate] at mem
    change piece ∈ (['.'].intercalate (names.map String.toList)).splitOn '.' at mem
    rw [List.splitOn_intercalate '.' free (by simpa using some)] at mem
    obtain ⟨name, named, rfl⟩ := List.mem_map.mp mem
    rw [String.ofList_toList]
    exact identifiers name named

/-- A name without dots is a dotted name only as an identifier. -/
theorem isDottedName_iff_of_dotless {name : String} (dotless : '.' ∉ name.toList) :
    isDottedName name ↔ isIdentifier name := by
  rw [isDottedName, segments_of_notMem dotless]
  simp

theorem isDottedName_of_isIdentifier {name : String} (h : isIdentifier name) :
    isDottedName name :=
  (isDottedName_iff_of_dotless (dot_not_mem h)).mpr h

/-- A dotted name with one more segment is a dotted name. -/
theorem isDottedName_append {scope name : String} (dotted : isDottedName scope)
    (h : isIdentifier name) : isDottedName (scope ++ "." ++ name) := by
  obtain ⟨names, some, identifiers, rfl⟩ := isDottedName_iff.mp dotted
  refine isDottedName_iff.mpr ⟨names ++ [name], by simp, ?_, ?_⟩
  · intro other mem
    rcases List.mem_append.mp mem with mem | mem
    · exact identifiers other mem
    · rw [List.mem_singleton.mp mem]
      exact h
  · rw [String.intercalate_append_of_ne_nil some (by simp), String.intercalate_singleton]

/-- No reserved word is a dotted name: it has no dots, and is no identifier. -/
theorem not_isDottedName_of_keyword {word : String} (h : word ∈ keywords) :
    ¬isDottedName word := by
  have dotless : '.' ∉ word.toList := fun mem => absurd (isLower_of_keyword h '.' mem) (by decide)
  rw [isDottedName_iff_of_dotless dotless]
  exact not_isIdentifier_of_keyword h

end Inspector
