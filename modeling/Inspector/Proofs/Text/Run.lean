import Inspector.Text.Segment
import Inspector.Target.Identifier
import Mathlib.Data.List.Basic

/-!
# Runs

A text that consists of pieces can be taken apart again where a piece is a run:
all its characters are of one class, and what follows it does not go on in that
class. So two texts that begin with runs of one class are equal only piece by
piece (`run_cancel`). The class of all characters but one gives the other common
case, in which a piece lasts up to a marker (`marker_cancel`).

Both are stated for lists of anything: lines are taken apart in the same way.
-/

namespace Inspector.Text

variable {α β : Type}

/-- A list does not begin with a member of a class. -/
def Stops (p : α → Bool) (rest : List α) : Prop :=
  ∀ a more, rest = a :: more → p a = false

theorem stops_nil (p : α → Bool) : Stops p [] := by
  intro a more h
  cases h

theorem stops_cons {p : α → Bool} {a : α} (h : p a = false) (more : List α) :
    Stops p (a :: more) := by
  intro b rest same
  cases same
  exact h

/-- A run is what the list begins with as far as the class goes. -/
theorem takeWhile_run {p : α → Bool} {run rest : List α} (all : ∀ a ∈ run, p a)
    (stop : Stops p rest) : (run ++ rest).takeWhile p = run := by
  have none : rest.takeWhile p = [] := by
    cases rest with
    | nil => rfl
    | cons a more => simp [stop a more rfl]
  rw [List.takeWhile_append_of_pos all, none, List.append_nil]

/-- Lists that begin with runs of one class are equal only piece by piece. -/
theorem run_cancel {p : α → Bool} {a b r s : List α} (ha : ∀ x ∈ a, p x) (hb : ∀ x ∈ b, p x)
    (hr : Stops p r) (hs : Stops p s) (h : a ++ r = b ++ s) : a = b ∧ r = s := by
  have first : a = b := by
    rw [← takeWhile_run ha hr, h, takeWhile_run hb hs]
  rw [first] at h
  exact ⟨first, List.append_cancel_left h⟩

/-- Lists that begin with pieces up to a marker are equal only piece by piece. -/
theorem marker_cancel [DecidableEq α] {marker : α} {a b r s : List α} (ha : marker ∉ a)
    (hb : marker ∉ b) (h : a ++ marker :: r = b ++ marker :: s) : a = b ∧ r = s := by
  have free {piece : List α} (hp : marker ∉ piece) : ∀ x ∈ piece, decide (x ≠ marker) := by
    intro x hx
    exact decide_eq_true fun same => hp (same ▸ hx)
  have stop (rest : List α) : Stops (fun x => decide (x ≠ marker)) (marker :: rest) :=
    stops_cons (by simp) rest
  obtain ⟨first, rest⟩ := run_cancel (free ha) (free hb) (stop r) (stop s) h
  exact ⟨first, (List.cons.inj rest).2⟩

/-- Images of lists are equal only member by member, if the function keeps their
members apart. -/
theorem map_cancel {f : α → β} {xs ys : List α} (apart : ∀ x ∈ xs, ∀ y ∈ ys, f x = f y → x = y)
    (h : xs.map f = ys.map f) : xs = ys := by
  induction xs generalizing ys with
  | nil => exact (List.map_eq_nil_iff.mp h.symm).symm
  | cons x xs ih =>
    cases ys with
    | nil => cases h
    | cons y ys =>
      obtain ⟨first, rest⟩ := List.cons.inj h
      have others := ih (fun a ha b hb =>
        apart a (List.mem_cons_of_mem _ ha) b (List.mem_cons_of_mem _ hb)) rest
      rw [apart x List.mem_cons_self y List.mem_cons_self first, others]

/-- Every character of a text is a separator or lies in one of the segments. -/
theorem mem_segments (separator : Char) {c : Char} {text : List Char} (h : c ∈ text) :
    c = separator ∨ ∃ piece ∈ segments separator text, c ∈ piece := by
  induction text with
  | nil => cases h
  | cons d rest ih =>
    rw [segments]
    split
    next same =>
      rcases List.mem_cons.mp h with rfl | h
      · exact .inl same
      · rcases ih h with same | ⟨piece, mem, hc⟩
        · exact .inl same
        · exact .inr ⟨piece, List.mem_cons_of_mem _ mem, hc⟩
    next =>
      -- a first segment is there, and the character joins it
      split
      next none =>
        rcases List.mem_cons.mp h with rfl | h
        · exact .inr ⟨[c], by simp, by simp⟩
        · rcases ih h with same | ⟨piece, mem, _⟩
          · exact .inl same
          · rw [none] at mem
            cases mem
      next first others some =>
        rcases List.mem_cons.mp h with rfl | h
        · exact .inr ⟨c :: first, by simp, by simp⟩
        · rcases ih h with same | ⟨piece, mem, hc⟩
          · exact .inl same
          · rw [some] at mem
            rcases List.mem_cons.mp mem with rfl | mem
            · exact .inr ⟨d :: piece, by simp, List.mem_cons_of_mem _ hc⟩
            · exact .inr ⟨piece, List.mem_cons_of_mem _ mem, hc⟩

/-! ## Cutting and joining -/

theorem segments_eq_splitOn (separator : Char) (text : List Char) :
    segments separator text = text.splitOn separator := by
  induction text with
  | nil => rfl
  | cons c rest ih =>
    rw [segments, List.splitOn_cons_eq_if_modifyHead, ih]
    by_cases same : c = separator
    · simp [same]
    · cases pieces : rest.splitOn separator with
      | nil => exact absurd pieces (List.splitOn_ne_nil separator rest)
      | cons piece pieces => simp [same]

/-- No segment holds the separator. -/
theorem not_mem_of_mem_segments {separator : Char} {text piece : List Char}
    (h : piece ∈ segments separator text) : separator ∉ piece := by
  induction text generalizing piece with
  | nil =>
    rw [segments, List.mem_singleton] at h
    rw [h]
    exact List.not_mem_nil
  | cons c rest ih =>
    rw [segments] at h
    split at h
    · rcases List.mem_cons.mp h with rfl | h
      · exact List.not_mem_nil
      · exact ih h
    next other =>
      split at h
      · rw [List.mem_singleton.mp h]
        simpa using Ne.symm other
      next first others some =>
        rcases List.mem_cons.mp h with rfl | h
        · have free : separator ∉ first := ih (some ▸ List.mem_cons_self)
          simpa [free] using Ne.symm other
        · exact ih (some ▸ List.mem_cons_of_mem _ h)

theorem segments_ne_nil (separator : Char) (text : List Char) : segments separator text ≠ [] := by
  rw [segments_eq_splitOn]
  exact List.splitOn_ne_nil separator text

/-- The segments of a text, joined, are the text. -/
theorem intercalate_segments (separator : Char) (text : List Char) :
    List.intercalate [separator] (segments separator text) = text := by
  rw [segments_eq_splitOn, List.intercalate_splitOn]

/-- Pieces without the separator are the segments of what they make when joined. -/
theorem segments_intercalate {separator : Char} {pieces : List (List Char)} (some : pieces ≠ [])
    (free : ∀ piece ∈ pieces, separator ∉ piece) :
    segments separator (List.intercalate [separator] pieces) = pieces := by
  rw [segments_eq_splitOn, List.splitOn_intercalate separator free some]

/-- Pieces with the separator after each are what joining them gives, with an empty
piece behind the last separator. -/
theorem intercalate_ended (separator : α) (pieces : List (List α)) :
    List.intercalate [separator] (pieces ++ [[]]) = pieces.flatMap (· ++ [separator]) := by
  induction pieces with
  | nil => rfl
  | cons piece rest ih =>
    rw [List.cons_append, List.intercalate_cons_of_ne_nil (by simp), ih, List.flatMap_cons]

theorem segments_of_notMem {separator : Char} {text : List Char} (free : separator ∉ text) :
    segments separator text = [text] := by
  rw [segments_eq_splitOn, List.splitOn_eq_singleton free]

theorem segments_append_cons (separator : Char) (front rest : List Char) :
    segments separator (front ++ separator :: rest) =
      segments separator front ++ segments separator rest := by
  simp only [segments_eq_splitOn, List.splitOn_append_cons_self]

/-- A text that begins with something other than the separator has a first segment that
begins so. -/
theorem segments_cons_of_ne {separator c : Char} (other : c ≠ separator) (text : List Char) :
    ∃ first rest, segments separator (c :: text) = (c :: first) :: rest := by
  rw [segments, if_neg other]
  split
  · exact ⟨_, _, rfl⟩
  · exact ⟨_, _, rfl⟩

/-- Pieces with the separator after each are cut there and wherever they hold it. -/
theorem segments_flatMap_ended (separator : Char) (pieces : List (List Char)) :
    segments separator (pieces.flatMap (· ++ [separator])) =
      pieces.flatMap (segments separator) ++ [[]] := by
  induction pieces with
  | nil => rfl
  | cons piece rest ih =>
    rw [List.flatMap_cons, List.append_assoc, List.singleton_append, segments_append_cons, ih,
      List.flatMap_cons, List.append_assoc]

/-- Pieces without the separator, each with one behind it, are cut at the separators. -/
theorem segments_ended {separator : Char} {pieces : List (List Char)}
    (free : ∀ piece ∈ pieces, separator ∉ piece) :
    segments separator (pieces.flatMap (· ++ [separator])) = pieces ++ [[]] := by
  have whole : ∀ piece ∈ pieces, segments separator piece = [piece] :=
    fun piece mem => segments_of_notMem (free piece mem)
  rw [segments_flatMap_ended, List.flatMap_congr whole, List.flatMap_singleton']

end Inspector.Text
