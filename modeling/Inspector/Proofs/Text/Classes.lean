import Inspector.Text.Blank
import Inspector.Text.Capital
import Inspector.Text.Numeric

/-!
# Classes of characters

Facts about the tables of characters that later modules lean on, each checked once
over the whole of a table.

White space is apart from letters and numbers (`not_isAlphanumeric_of_blank`). A
capital form is not empty, and a character that is no capital of another one stands
in no capital form but its own (`eq_of_mem_capital`).

Below `0x80` there is a rule in place of a table, and all its cases are gone through
(`of_ascii`).
-/

namespace Inspector.Text

theorem of_ascii {p : Char → Prop} (all : ∀ n < 0x80, p (Char.ofNat n)) {c : Char}
    (ascii : isAscii c) : p c := by
  have own := all c.toNat (of_decide_eq_true ascii)
  rwa [Char.ofNat_toNat] at own

/-! ## White space -/

/-- Whether no code point lies in spans of two tables. -/
def apart (table table' : List Span) : Bool :=
  table.all fun s => table'.all fun t => decide (s.last < t.first) || decide (t.last < s.first)

theorem not_inSpans_of_apart {table table' : List Span} (h : apart table table') {n : Nat}
    (mem : inSpans table n) : inSpans table' n = false := by
  obtain ⟨s, known, within⟩ := List.any_eq_true.mp mem
  rw [Bool.eq_false_iff]
  intro other
  obtain ⟨t, known', within'⟩ := List.any_eq_true.mp other
  have order := List.all_eq_true.mp (List.all_eq_true.mp h s known) t known'
  simp only [Span.contains, Bool.and_eq_true, decide_eq_true_eq] at within within'
  simp only [Bool.or_eq_true, decide_eq_true_eq] at order
  omega

theorem apart_blank_alphabetic : apart blankSpans alphabeticSpans := by
  decide +kernel

theorem apart_blank_numeric : apart blankSpans numericSpans := by
  decide +kernel

/-- No letter and no number is white space. -/
theorem not_isAlphanumeric_of_blank {c : Char} (blank : isBlank c) : isAlphanumeric c = false := by
  by_cases ascii : isAscii c
  · have all : ∀ n < 0x80, isBlank (Char.ofNat n) → isAlphanumeric (Char.ofNat n) = false := by
      decide
    exact of_ascii (p := fun c => isBlank c → isAlphanumeric c = false) all ascii blank
  · rw [isBlank, if_neg ascii] at blank
    rw [isAlphanumeric, isAlphabetic, isNumeric, if_neg ascii, if_neg ascii,
      not_inSpans_of_apart apart_blank_alphabetic blank,
      not_inSpans_of_apart apart_blank_numeric blank, Bool.or_false]

theorem not_isAlphabetic_of_blank {c : Char} (blank : isBlank c) : isAlphabetic c = false :=
  (Bool.or_eq_false_iff.mp (not_isAlphanumeric_of_blank blank)).1

/-- Nothing is trimmed from a text that does not end in white space. -/
theorem trimEnd_eq_self {text : List Char} (solid : ∀ c ∈ text.getLast?, isBlank c = false) :
    trimEnd text = text := by
  rw [List.getLast?_eq_head?_reverse] at solid
  rw [trimEnd, List.reverse_eq_iff]
  cases letters : text.reverse with
  | nil => rfl
  | cons c rest =>
    rw [letters] at solid
    exact List.dropWhile_cons_of_neg (by simpa using solid)

/-! ## Capital forms -/

theorem toNat_ofNat (n : Nat) : (Char.ofNat n).toNat = n ∨ Char.ofNat n = '\x00' := by
  by_cases valid : n.isValidChar
  · rw [Char.ofNat, dif_pos valid]
    exact .inl rfl
  · rw [Char.ofNat, dif_neg valid]
    exact .inr rfl

/-- Whether no part of the rules for capitals leads from another character to `c`. -/
def isUncapital (c : Char) : Bool :=
  c != '\x00' &&
    (List.range 0x80).all (fun n => (Char.ofNat n).toUpper != c || Char.ofNat n == c) &&
    capitalShifts.all (fun entry => c.toNat < (entry.1.first + entry.2).toNat ||
      (entry.1.last + entry.2).toNat < c.toNat) &&
    capitalSequences.all (fun entry => entry.2.all (Char.ofNat · != c))

theorem mem_capitalSequences {c : Char} {codes : List Nat}
    (found : capitalSequences.lookup c.toNat = some codes) :
    (c.toNat, codes) ∈ capitalSequences := by
  obtain ⟨before, after, table, _⟩ := List.lookup_eq_some_iff.mp found
  rw [table]
  exact List.mem_append_right before List.mem_cons_self

section Uncapital

variable {c d : Char} (h : isUncapital c)
include h

theorem eq_of_mem_wideCapital (mem : c ∈ wideCapital d) : c = d := by
  simp only [isUncapital, Bool.and_eq_true, List.all_eq_true, bne_iff_ne, Bool.or_eq_true,
    decide_eq_true_eq] at h
  obtain ⟨⟨⟨known, _⟩, shifts⟩, sequences⟩ := h
  unfold wideCapital at mem
  split at mem
  next codes found =>
    obtain ⟨n, code, same⟩ := List.mem_map.mp mem
    exact absurd same (sequences _ (mem_capitalSequences found) n code)
  · split at mem
    next span shift found =>
      obtain ⟨first, last⟩ : span.first ≤ d.toNat ∧ d.toNat ≤ span.last := by
        have within := List.find?_some found
        simp only [Span.contains, Bool.and_eq_true, decide_eq_true_eq] at within
        exact within.1
      have apart := shifts _ (List.mem_of_find?_eq_some found)
      have own := List.mem_singleton.mp mem
      rcases toNat_ofNat (d.toNat + shift).toNat with code | null
      · rw [← own] at code
        simp only at apart
        omega
      · exact absurd (own.trans null) known
    next => exact List.mem_singleton.mp mem

/-- It stands in no capital form, unless in its own. -/
theorem eq_of_mem_capital (mem : c ∈ capital d) : c = d := by
  unfold capital at mem
  split at mem
  next ascii =>
    have own := List.mem_singleton.mp mem
    simp only [isUncapital, Bool.and_eq_true, List.all_eq_true, bne_iff_ne, Bool.or_eq_true,
      List.mem_range, beq_iff_eq] at h
    have narrow := of_ascii (p := fun d => d.toUpper ≠ c ∨ d = c) h.1.1.2 ascii
    exact (narrow.resolve_left (not_not_intro own.symm)).symm
  next => exact eq_of_mem_wideCapital h mem

end Uncapital

theorem capital_ne_nil (c : Char) : capital c ≠ [] := by
  have sequences : ∀ entry ∈ capitalSequences, entry.2 ≠ [] := by decide
  unfold capital wideCapital
  split
  · exact List.cons_ne_nil _ _
  · split
    next codes found => exact mt List.map_eq_nil_iff.mp (sequences _ (mem_capitalSequences found))
    · split <;> exact List.cons_ne_nil _ _

theorem mem_of_mem_capitalize {c : Char} (h : isUncapital c) {text : List Char}
    (mem : c ∈ capitalize text) : c ∈ text := by
  cases text with
  | nil => exact mem
  | cons d rest =>
    rcases List.mem_append.mp mem with mem | mem
    · exact eq_of_mem_capital h mem ▸ List.mem_cons_self
    · exact List.mem_cons_of_mem d mem

theorem capitalize_eq_nil_iff {text : List Char} : capitalize text = [] ↔ text = [] := by
  cases text with
  | nil => exact Iff.rfl
  | cons c rest => simp [capitalize, capital_ne_nil]

theorem capitalize_append {text : List Char} (some : text ≠ []) (rest : List Char) :
    capitalize (text ++ rest) = capitalize text ++ rest := by
  cases text with
  | nil => exact absurd rfl some
  | cons c more => exact (List.append_assoc (capital c) more rest).symm

end Inspector.Text
