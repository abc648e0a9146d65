import Inspector.CSharp.Render
import Mathlib.Data.List.Dedup
import Mathlib.Data.List.Induction

/-!
# Imports

A source file is made with any list of imports and keeps each of them once, where it
stands first. The list is read from the front, and a text is put behind those that are
kept unless it is one of them. Read from the back, this is the library's `List.dedup`
(`firstOccurrences_eq`), which keeps the last occurrences.

**The law** (`CompilationUnit.imports_once`): the kept imports are the given ones without
repetition, in the order in which they occur first. They are kept as they are when a file
is made again, and to give some of them once more does not change the file.
-/

namespace Inspector.CSharp

variable {texts : List String}

theorem firstOccurrences_eq (texts : List String) :
    firstOccurrences texts = texts.reverse.dedup.reverse := by
  induction texts using List.reverseRecOn with
  | nil => rfl
  | append_singleton texts text ih =>
    rw [firstOccurrences, List.foldl_concat, ← firstOccurrences, ih, List.reverse_concat,
      List.dedup_cons]
    by_cases seen : text ∈ texts <;> simp [seen]

theorem nodup_firstOccurrences (texts : List String) : (firstOccurrences texts).Nodup := by
  rw [firstOccurrences_eq, List.nodup_reverse]
  exact List.nodup_dedup _

theorem mem_firstOccurrences {text : String} : text ∈ firstOccurrences texts ↔ text ∈ texts := by
  simp [firstOccurrences_eq]

theorem firstOccurrences_of_nodup (once : texts.Nodup) : firstOccurrences texts = texts := by
  rw [firstOccurrences_eq, (List.nodup_reverse.mpr once).dedup, List.reverse_reverse]

/-- What occurs already may be given again. -/
theorem firstOccurrences_append_of_subset {more : List String} (seen : more ⊆ texts) :
    firstOccurrences (texts ++ more) = firstOccurrences texts := by
  have behind : more.reverse ⊆ texts.reverse := by simpa using seen
  rw [firstOccurrences_eq, firstOccurrences_eq, List.reverse_append, behind.dedup_append_right]

theorem firstOccurrences_concat_of_notMem {text : String} (new : text ∉ texts) :
    firstOccurrences (texts ++ [text]) = firstOccurrences texts ++ [text] := by
  simp [firstOccurrences_eq, new]

/-- A text at the end of a list comes first only behind everything that is in the list. -/
theorem idxOf_concat_lt_iff {text a b : String} (ha : a ∈ texts ++ [text])
    (hb : b ∈ texts ++ [text]) : (texts ++ [text]).idxOf a < (texts ++ [text]).idxOf b ↔
      a ∈ texts ∧ (b ∈ texts → texts.idxOf a < texts.idxOf b) := by
  have last {c : String} (hc : c ∈ texts ++ [text]) (new : c ∉ texts) :
      (texts ++ [text]).idxOf c = texts.length := by
    obtain rfl : c = text := by simpa [new] using hc
    simp [List.idxOf_append_of_notMem new]
  by_cases earlier : a ∈ texts
  · have before := List.idxOf_lt_length_of_mem earlier
    rw [List.idxOf_append_of_mem earlier]
    by_cases known : b ∈ texts
    · simp [List.idxOf_append_of_mem known, earlier, known]
    · simp [last hb known, earlier, known, before]
  · have bound : (texts ++ [text]).idxOf b ≤ texts.length := by
      have inside := List.idxOf_lt_length_of_mem hb
      rw [List.length_append, List.length_singleton] at inside
      omega
    simp [last ha earlier, earlier, bound]

/-- Of two texts the one that occurs first comes first. -/
theorem idxOf_firstOccurrences_lt_iff {a b : String} (ha : a ∈ texts) (hb : b ∈ texts) :
    (firstOccurrences texts).idxOf a < (firstOccurrences texts).idxOf b ↔
      texts.idxOf a < texts.idxOf b := by
  induction texts using List.reverseRecOn with
  | nil => cases ha
  | append_singleton texts text ih =>
    by_cases seen : text ∈ texts
    · have same : firstOccurrences (texts ++ [text]) = firstOccurrences texts :=
        firstOccurrences_append_of_subset (by simpa using seen)
      have known {c : String} (hc : c ∈ texts ++ [text]) : c ∈ texts := by
        rw [← mem_firstOccurrences, ← same]
        exact mem_firstOccurrences.mpr hc
      rw [same, List.idxOf_append_of_mem (known ha), List.idxOf_append_of_mem (known hb)]
      exact ih (known ha) (known hb)
    · have same := firstOccurrences_concat_of_notMem seen
      have mem (c : String) : c ∈ firstOccurrences texts ++ [text] ↔ c ∈ texts ++ [text] := by
        rw [← same, mem_firstOccurrences]
      rw [same, idxOf_concat_lt_iff ((mem a).mpr ha) ((mem b).mpr hb), idxOf_concat_lt_iff ha hb,
        mem_firstOccurrences, mem_firstOccurrences]
      exact and_congr_right fun ha' => imp_congr_right fun hb' => ih ha' hb'

/-- The texts of a list without repetition, in the order in which they occur first. -/
structure Firsts (texts kept : List String) : Prop where
  once : kept.Nodup
  mem : ∀ text, text ∈ kept ↔ text ∈ texts
  order : ∀ a ∈ texts, ∀ b ∈ texts,
    kept.idxOf a < kept.idxOf b ↔ texts.idxOf a < texts.idxOf b

theorem firsts_firstOccurrences (texts : List String) : Firsts texts (firstOccurrences texts) where
  once := nodup_firstOccurrences texts
  mem _ := mem_firstOccurrences
  order _ ha _ hb := idxOf_firstOccurrences_lt_iff ha hb

/-! ## The law -/

namespace CompilationUnit

/-- A file keeps the first occurrences of its imports. To make it again from what it keeps
leaves it as it is, and so does to give some of its imports once more. -/
theorem imports_once (scope : Option String) (imports : List String) (c : ClassDecl) :
    Firsts imports (of scope imports c).imports ∧
    of (of scope imports c).scope (of scope imports c).imports (of scope imports c).cls =
      of scope imports c ∧
    ∀ more, more ⊆ imports →
      of scope (imports ++ more) c = of scope imports c ∧
      (of scope (imports ++ more) c).render = (of scope imports c).render := by
  have again : firstOccurrences (firstOccurrences imports) = firstOccurrences imports :=
    firstOccurrences_of_nodup (nodup_firstOccurrences imports)
  refine ⟨firsts_firstOccurrences imports, ?_, fun more seen => ?_⟩
  · simp only [of, again]
  · have same : of scope (imports ++ more) c = of scope imports c := by
      simp only [of, firstOccurrences_append_of_subset seen]
    exact ⟨same, by rw [same]⟩

/-- A class of nothing but its name and its base. -/
def blankClass : ClassDecl := ⟨.isPublic, "Blank", "Base", [], []⟩

/-- Of five imports three are kept, and the later ones may be given again. -/
theorem imports_once_blankClass :
    ["A", "C", "A"] ⊆ ["B", "A", "B", "C", "A"] ∧
    Firsts ["B", "A", "B", "C", "A"] ["B", "A", "C"] ∧
    of none (["B", "A", "B", "C", "A"] ++ ["A", "C", "A"]) blankClass =
      of none ["B", "A", "B", "C", "A"] blankClass ∧
    (of none (["B", "A", "B", "C", "A"] ++ ["A", "C", "A"]) blankClass).render =
      (of none ["B", "A", "B", "C", "A"] blankClass).render := by
  have given : ["A", "C", "A"] ⊆ ["B", "A", "B", "C", "A"] := by decide
  obtain ⟨firsts, _, more⟩ := imports_once none ["B", "A", "B", "C", "A"] blankClass
  exact ⟨given, firsts, more _ given⟩

end CompilationUnit

end Inspector.CSharp
