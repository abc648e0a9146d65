import Inspector.Diagnostics.Event
import Mathlib.Data.List.Induction
import Mathlib.Data.List.Infix

/-!
# Lines

What becomes of the values that an event records, in any number, under any names and in
any order. Of the messages the last one counts, unless it is empty; every other value is
an item of its own (`Transcript.pieces`).

While the values are taken in, a separator is put where there is something before, and
what there is before is told by the text so far. That is right because an item is never
empty: it has its `=`.

**The law** (`Transcript.line_joined`): a line is its pieces with single spaces between
them. So a space at one of its ends, and a space next to another, is there only because
a piece has it (`Joined`); what is recorded without such spaces, under names without
any, gives a line without them.
-/

namespace Inspector.Diagnostics

/-! ## Pieces with spaces between them -/

/-- Two characters stand together in a text made of two if they do in one of them, or
where the two meet. -/
theorem pair_infix_append_iff {x y : Char} {front back : List Char} :
    [x, y] <:+: front ++ back ↔
      [x, y] <:+: front ∨ [x, y] <:+: back ∨ front.getLast? = some x ∧ back.head? = some y := by
  rw [List.infix_append_iff_ne_nil, ← List.singleton_suffix_iff_getLast?_eq_some,
    ← List.singleton_prefix_iff_head?_eq_some]
  refine or_congr_right (or_congr_right ⟨?_, ?_⟩)
  · rintro ⟨left, right, some, more, cut, before, behind⟩
    obtain ⟨rfl, rfl⟩ : left = [x] ∧ right = [y] := by
      rcases List.cons_eq_append_iff.mp cut with ⟨none, _⟩ | ⟨rest, rfl, later⟩
      · exact absurd none some
      · rcases List.cons_eq_append_iff.mp later with ⟨rfl, rfl⟩ | ⟨rest, rfl, none⟩
        · exact ⟨rfl, rfl⟩
        · exact absurd (List.append_eq_nil_iff.mp none.symm).2 more
    exact ⟨before, behind⟩
  · rintro ⟨before, behind⟩
    exact ⟨[x], [y], by simp, by simp, rfl, before, behind⟩

/-- Texts with a single space between each and the next. Where there is a space at an
end of the whole, or next to another, one of the texts has it at its end or within. -/
structure Joined (pieces : List String) (text : String) : Prop where
  eq : text = " ".intercalate pieces
  full : "" ∉ pieces
  head : text.toList.head? = pieces.head?.bind (·.toList.head?)
  last : text.toList.getLast? = pieces.getLast?.bind (·.toList.getLast?)
  doubled : [' ', ' '] <:+: text.toList ↔
    (∃ piece ∈ pieces, [' ', ' '] <:+: piece.toList) ∨
      ∃ a b, [a, b] <:+: pieces ∧
        (a.toList.getLast? = some ' ' ∨ b.toList.head? = some ' ')
  kept : ∀ piece ∈ pieces, piece.toList <:+: text.toList

theorem Joined.eq_empty_iff {pieces : List String} {text : String} (h : Joined pieces text) :
    text = "" ↔ pieces = [] := by
  constructor
  · rintro rfl
    cases pieces with
    | nil => rfl
    | cons piece rest =>
      have inside := h.kept piece List.mem_cons_self
      have empty : piece = "" := by simpa using inside
      exact absurd (empty ▸ List.mem_cons_self) h.full
  · rintro rfl
    exact h.eq

theorem Joined.nil : Joined [] "" where
  eq := rfl
  full := List.not_mem_nil
  head := rfl
  last := rfl
  doubled := by simp
  kept := nofun

theorem Joined.singleton {piece : String} (some : piece ≠ "") : Joined [piece] piece where
  eq := by simp
  full := by simpa using some.symm
  head := by simp
  last := by simp
  doubled := by
    have alone (a b : String) : ¬[a, b] <:+: [piece] := fun pair => by simpa using pair.length_le
    simp [alone]
  kept := by simp

theorem exists_neighbours_iff {p : String → String → Prop} {piece next : String}
    {pieces : List String} : (∃ a b, [a, b] <:+: piece :: next :: pieces ∧ p a b) ↔
      p piece next ∨ ∃ a b, [a, b] <:+: next :: pieces ∧ p a b := by
  constructor
  · rintro ⟨a, b, pair, holds⟩
    rcases List.infix_cons_iff.mp pair with start | later
    · obtain ⟨rfl, rest⟩ := List.cons_prefix_cons.mp start
      obtain ⟨rfl, _⟩ := List.cons_prefix_cons.mp rest
      exact .inl holds
    · exact .inr ⟨a, b, later, holds⟩
  · rintro (holds | ⟨a, b, later, holds⟩)
    · exact ⟨piece, next, ⟨[], pieces, rfl⟩, holds⟩
    · exact ⟨a, b, later.trans (List.infix_cons (List.infix_refl _)), holds⟩

theorem Joined.cons {piece next : String} {pieces : List String} {text : String}
    (some : piece ≠ "") (h : Joined (next :: pieces) text) :
    Joined (piece :: next :: pieces) (piece ++ " " ++ text) := by
  have spelled : (piece ++ " " ++ text).toList = piece.toList ++ ' ' :: text.toList := by simp
  obtain ⟨c, own, first⟩ : ∃ c own, piece.toList = c :: own :=
    List.exists_cons_of_ne_nil (by simpa using some)
  have more : text.toList ≠ [] := by
    rw [Ne, String.toList_eq_nil_iff, h.eq_empty_iff]
    exact List.cons_ne_nil next pieces
  refine ⟨?_, ?_, ?_, ?_, ?_, ?_⟩
  · rw [h.eq, String.intercalate_cons_cons]
  · rw [List.mem_cons, not_or]
    exact ⟨some.symm, h.full⟩
  · simp [spelled, first]
  · rw [List.getLast?_cons_cons, ← h.last, spelled,
      List.getLast?_append_of_ne_nil _ (List.cons_ne_nil _ _)]
    exact List.getLast?_append_of_ne_nil [' '] more
  · have second : [' ', ' '] <+: ' ' :: text.toList ↔ next.toList.head? = .some ' ' := by
      rw [List.cons_prefix_cons, List.singleton_prefix_iff_head?_eq_some, h.head]
      simp
    rw [spelled, pair_infix_append_iff, List.infix_cons_iff, second, h.doubled,
      exists_neighbours_iff]
    simp only [List.mem_cons, exists_eq_or_imp, List.head?_cons, and_true]
    exact iff_of_eq (by ac_rfl)
  · intro other mem
    rw [spelled]
    rcases List.mem_cons.mp mem with rfl | later
    · exact (List.prefix_append _ _).isInfix
    · exact ((h.kept other later).trans (List.infix_cons (List.infix_refl _))).trans
        (List.suffix_append _ _).isInfix

theorem joined_intercalate {pieces : List String} (full : "" ∉ pieces) :
    Joined pieces (" ".intercalate pieces) := by
  induction pieces with
  | nil => exact .nil
  | cons piece rest ih =>
    obtain ⟨some, others⟩ := List.ne_and_not_mem_of_not_mem_cons full
    cases rest with
    | nil => simpa using Joined.singleton some.symm
    | cons next rest =>
      rw [String.intercalate_cons_cons]
      exact .cons some.symm (ih others)

/-- A text without a space at one of its ends and without two in a row. -/
structure Tight (text : String) : Prop where
  head : text.toList.head? ≠ some ' '
  last : text.toList.getLast? ≠ some ' '
  single : ¬[' ', ' '] <:+: text.toList

instance (text : String) : Decidable (Tight text) :=
  decidable_of_iff (text.toList.head? ≠ some ' ' ∧ text.toList.getLast? ≠ some ' ' ∧
      ¬[' ', ' '] <:+: text.toList)
    ⟨fun ⟨head, last, single⟩ => ⟨head, last, single⟩, fun h => ⟨h.head, h.last, h.single⟩⟩

theorem Joined.tight {pieces : List String} {text : String} (h : Joined pieces text)
    (each : ∀ piece ∈ pieces, Tight piece) : Tight text := by
  refine ⟨?_, ?_, ?_⟩
  · rw [h.head]
    intro space
    obtain ⟨piece, first, own⟩ := Option.bind_eq_some_iff.mp space
    exact (each piece (List.mem_of_head? first)).head own
  · rw [h.last]
    intro space
    obtain ⟨piece, last, own⟩ := Option.bind_eq_some_iff.mp space
    exact (each piece (List.mem_of_getLast? last)).last own
  · rw [h.doubled]
    rintro (⟨piece, mem, own⟩ | ⟨a, b, pair, own | own⟩)
    · exact (each piece mem).single own
    · exact (each a (pair.subset (by simp))).last own
    · exact (each b (pair.subset (by simp))).head own

/-! ## Recorded values -/

namespace Transcript

/-- The message that was recorded last. -/
def lastMessage? (values : List (String × String)) : Option String :=
  (values.filter (·.1 = messageName)).getLast?.map (·.2)

/-- The values that are no messages, each with its name. -/
def named (values : List (String × String)) : List String :=
  (values.filter (·.1 ≠ messageName)).map fun value => value.1 ++ "=" ++ value.2

/-- What a line is made of. -/
def pieces (values : List (String × String)) : List String :=
  (lastMessage? values).toList.filter (· ≠ "") ++ named values

section Concat

variable {values : List (String × String)} {value : String × String}

theorem lastMessage?_concat : lastMessage? (values ++ [value]) =
    if value.1 = messageName then some value.2 else lastMessage? values := by
  by_cases own : value.1 = messageName <;> simp [lastMessage?, own]

theorem named_concat : named (values ++ [value]) =
    if value.1 = messageName then named values
    else named values ++ [value.1 ++ "=" ++ value.2] := by
  by_cases own : value.1 = messageName <;> simp [named, own]

end Concat

theorem empty_not_mem_named (values : List (String × String)) : "" ∉ named values := by
  simp [named]

theorem empty_not_mem_pieces (values : List (String × String)) : "" ∉ pieces values := by
  simp [pieces, empty_not_mem_named]

/-- What is held after some values: the last message, and the other values. -/
theorem foldl_record (values : List (String × String)) :
    values.foldl (fun t value => t.record value.1 value.2) empty =
      ⟨(lastMessage? values).getD "", " ".intercalate (named values)⟩ := by
  induction values using List.reverseRecOn with
  | nil => rfl
  | append_singleton values value ih =>
    rw [List.foldl_concat, ih, record, lastMessage?_concat, named_concat]
    by_cases own : value.1 = messageName
    · simp only [own, if_true, Option.getD_some]
    · -- there is something before exactly if there is an item before
      have started := (joined_intercalate (empty_not_mem_named values)).eq_empty_iff
      simp only [own, if_false, started]
      by_cases none : named values = []
      · simp [none]
      · rw [if_neg none, String.intercalate_append_of_ne_nil none (List.cons_ne_nil _ _),
          String.intercalate_singleton]

theorem finish_eq {message : String} {items : List String} (full : "" ∉ items) :
    finish ⟨message, " ".intercalate items⟩ =
      " ".intercalate ([message].filter (· ≠ "") ++ items) := by
  have started := (joined_intercalate full).eq_empty_iff
  unfold finish
  by_cases silent : message = "" <;> by_cases none : items = []
  · simp [silent, none]
  · simp [silent, started, none]
  · simp [silent, none]
  · simp [silent, started, none, String.intercalate_cons_of_ne_nil none]

theorem line_eq (values : List (String × String)) :
    line values = " ".intercalate (pieces values) := by
  rw [line, foldl_record, finish_eq (empty_not_mem_named values), pieces]
  cases lastMessage? values <;> simp

/-- What is recorded under a name without spaces is as tight as the value. -/
theorem tight_item {name value : String} (solid : ' ' ∉ name.toList) (h : Tight value) :
    Tight (name ++ "=" ++ value) := by
  have spelled : (name ++ "=" ++ value).toList = (name.toList ++ ['=']) ++ value.toList := by simp
  have front : ' ' ∉ name.toList ++ ['='] := by simpa using solid
  refine ⟨?_, ?_, ?_⟩
  · rw [spelled, List.head?_append_of_ne_nil _ (by simp)]
    exact fun space => front (List.mem_of_head? space)
  · rw [spelled, List.getLast?_append]
    intro space
    rcases Option.or_eq_some_iff.mp space with own | ⟨_, own⟩
    · exact h.last own
    · exact front (List.mem_of_getLast? own)
  · rw [spelled, pair_infix_append_iff]
    rintro (inside | inside | ⟨last, _⟩)
    · exact front (inside.subset List.mem_cons_self)
    · exact h.single inside
    · exact front (List.mem_of_getLast? last)

theorem mem_pieces {values : List (String × String)} {piece : String}
    (mem : piece ∈ pieces values) :
    ∃ value ∈ values, piece = value.2 ∨ piece = value.1 ++ "=" ++ value.2 := by
  rcases List.mem_append.mp mem with message | item
  · have last := Option.mem_toList.mp (List.mem_filter.mp message).1
    obtain ⟨value, own, rfl⟩ := Option.map_eq_some_iff.mp last
    exact ⟨value, (List.mem_filter.mp (List.mem_of_getLast? own)).1, .inl rfl⟩
  · obtain ⟨value, own, rfl⟩ := List.mem_map.mp item
    exact ⟨value, (List.mem_filter.mp own).1, .inr rfl⟩

/-! ## The law -/

/-- The line of an event is the message that was recorded last, unless it is empty, and
then each other value with its name, with single spaces between them. No value is lost,
and no space stands at an end or next to another that is not a piece's own. -/
theorem line_joined (values : List (String × String)) :
    Joined (pieces values) (line values) ∧
    (∀ value ∈ values, value.1 ≠ messageName →
      (value.1 ++ "=" ++ value.2).toList <:+: (line values).toList) ∧
    ((∀ value ∈ values, ' ' ∉ value.1.toList ∧ Tight value.2) → Tight (line values)) := by
  have joined : Joined (pieces values) (line values) := by
    rw [line_eq]
    exact joined_intercalate (empty_not_mem_pieces values)
  refine ⟨joined, fun value mem other => ?_, fun tight => ?_⟩
  · have item : value.1 ++ "=" ++ value.2 ∈ named values :=
      List.mem_map_of_mem (List.mem_filter.mpr ⟨mem, decide_eq_true other⟩)
    exact joined.kept _ (List.mem_append_right _ item)
  · refine joined.tight fun piece mem => ?_
    obtain ⟨value, known, rfl | rfl⟩ := mem_pieces mem
    · exact (tight value known).2
    · exact tight_item (tight value known).1 (tight value known).2

/-- Two messages, the first of them behind another value, and an empty value. -/
def scattered : List (String × String) :=
  [("count", "2"), ("message", "draft"), ("path", ""), ("message", "editor written"),
    ("by", "the host")]

theorem line_joined_scattered :
    ("path" ≠ messageName ∧ ∀ value ∈ scattered, ' ' ∉ value.1.toList ∧ Tight value.2) ∧
    line scattered = "editor written count=2 path= by=the host" ∧
    Joined ["editor written", "count=2", "path=", "by=the host"] (line scattered) ∧
    "path=".toList <:+: (line scattered).toList ∧ Tight (line scattered) := by
  have other : "path" ≠ messageName := by decide
  have tight : ∀ value ∈ scattered, ' ' ∉ value.1.toList ∧ Tight value.2 := by decide +kernel
  have cut : pieces scattered = ["editor written", "count=2", "path=", "by=the host"] := by
    decide +kernel
  obtain ⟨joined, kept, clean⟩ := line_joined scattered
  rw [cut] at joined
  exact ⟨⟨other, tight⟩, joined.eq, joined, kept ("path", "") (by decide) other, clean tight⟩

end Transcript

end Inspector.Diagnostics
