import Inspector.Files.Path
import Inspector.Proofs.Text.Run
import Mathlib.Data.List.Basic
import Mathlib.Data.List.Induction

/-!
# Paths and what is above them

A path consists of its pieces, and putting slashes between them gives it back. The nearest
directory above its end is the longest beginning that ends in a step and is not the whole
path; between the two there are only pieces that lead nowhere (`eq_append_of_getLast_stations`).
So whoever follows a path comes by that directory and takes one more step
(`above_of_ancestors`).
-/

namespace Inspector.Files

open Text

/-! ## Pieces -/

/-- The pieces of a path. -/
def pieces (path : String) : List (List Char) :=
  segments '/' path.toList

/-- The names among some pieces. -/
def namesOf (pieces : List (List Char)) : List String :=
  (pieces.filter fun piece => piece != []).map String.ofList

theorem names_eq (path : String) : names path = namesOf (pieces path) := rfl

theorem namesOf_append (front back : List (List Char)) :
    namesOf (front ++ back) = namesOf front ++ namesOf back := by
  simp [namesOf]

theorem ofPieces_pieces (path : String) : ofPieces (pieces path) = path := by
  rw [ofPieces, pieces, intercalate_segments, String.ofList_toList]

theorem pieces_ofPieces {list : List (List Char)} (some : list ≠ [])
    (free : ∀ piece ∈ list, '/' ∉ piece) : pieces (ofPieces list) = list := by
  rw [pieces, ofPieces, String.toList_ofList, segments_intercalate some free]

theorem ofPieces_append {front back : List (List Char)} (some : front ≠ []) (more : back ≠ []) :
    ofPieces (front ++ back) = ofPieces front ++ "/" ++ ofPieces back := by
  apply String.toList_injective
  simp only [ofPieces, String.toList_ofList, String.toList_append]
  induction front with
  | nil => exact (some rfl).elim
  | cons piece rest ih =>
    cases rest with
    | nil => simp [List.intercalate_cons_of_ne_nil more]
    | cons next rest =>
      have later := ih (by simp)
      rw [List.cons_append] at later
      simp [later]

/-- The last piece of a path is empty only at a slash, or if there is no path. -/
theorem endsInSlash_of_last_empty {path : String} {front : List (List Char)}
    (cut : pieces path = front ++ [[]]) (some : path ≠ "") : endsInSlash path := by
  have joined := ofPieces_pieces path
  rw [cut] at joined
  cases front with
  | nil => exact (some joined.symm).elim
  | cons piece rest =>
    rw [ofPieces_append (by simp) (by simp)] at joined
    rw [endsInSlash, ← joined]
    simp [ofPieces]

/-! ## Stations -/

/-- The beginnings of some pieces that end in a step. -/
def stations (pieces : List (List Char)) : List (List (List Char)) :=
  (beginnings pieces).filter endsInStep

theorem beginnings_append_singleton {α : Type} (list : List α) (a : α) :
    beginnings (list ++ [a]) = beginnings list ++ [list ++ [a]] := by
  induction list with
  | nil => rfl
  | cons b rest ih => simp [beginnings, ih]

theorem stations_append_singleton (front : List (List Char)) (piece : List Char) :
    stations (front ++ [piece]) =
      stations front ++ if endsInStep (front ++ [piece]) then [front ++ [piece]] else [] := by
  rw [stations, beginnings_append_singleton, List.filter_append, stations, List.filter_cons,
    List.filter_nil]

/-- A piece that is no step is empty or a dot. -/
theorem empty_or_dot {front : List (List Char)} {piece : List Char}
    (h : ¬endsInStep (front ++ [piece])) : piece = [] ∨ piece = ['.'] := by
  simp only [endsInStep, List.getLast?_concat, Bool.and_eq_true, bne_iff_ne, ne_eq, not_and,
    Bool.or_eq_true, not_or, not_not] at h
  by_cases empty : piece = []
  · exact .inl empty
  · exact .inr (h empty).1

theorem endsInStep_of_ne {front : List (List Char)} {piece : List Char} (some : piece ≠ [])
    (moves : piece ≠ ['.']) : endsInStep (front ++ [piece]) :=
  Decidable.byContradiction fun h => (empty_or_dot h).elim some moves

/-- Behind the last station there are only pieces that lead nowhere. -/
theorem eq_append_of_getLast_stations {list station : List (List Char)}
    (h : (stations list).getLast? = some station) :
    station ≠ [] ∧ endsInStep station ∧
      ∃ rest, list = station ++ rest ∧ ∀ piece ∈ rest, piece = [] ∨ piece = ['.'] := by
  induction list using List.reverseRecOn with
  | nil => cases h
  | append_singleton front piece ih =>
    rw [stations_append_singleton] at h
    split at h
    next step =>
      rw [List.getLast?_concat] at h
      cases h
      exact ⟨by simp, step, [], by simp, List.forall_mem_nil _⟩
    next idle =>
      rw [List.append_nil] at h
      obtain ⟨some, step, rest, rfl, still⟩ := ih h
      refine ⟨some, step, rest ++ [piece], by simp, List.forall_mem_append.mpr ⟨still, ?_⟩⟩
      exact List.forall_mem_singleton.mpr (empty_or_dot idle)

/-! ## The nearest directory above -/

theorem ancestors_of_trail {path : String} {before : List (List (List Char))}
    {last : List (List Char)} (h : trail path = before ++ [last]) :
    ancestors path = before.reverse.map ofPieces ++ if isRooted path then ["/"] else [] := by
  rw [ancestors, h]
  cases before with
  | nil => rfl
  | cons station rest =>
    change (station :: rest ++ [last]).dropLast.reverse.map ofPieces ++ _ = _
    rw [List.dropLast_concat]

/-- What is above a path whose last piece is a step: the root, or the path up to the step
before, with nothing in between that leads anywhere. -/
theorem above_of_ancestors {path above : String} {further : List String}
    {front : List (List Char)} {last : List Char} (cut : pieces path = front ++ [last])
    (step : endsInStep (front ++ [last])) (h : ancestors path = above :: further) :
    above = "/" ∨ ∃ station rest, station ≠ [] ∧ endsInStep station ∧ above = ofPieces station ∧
      front = station ++ rest ∧ ∀ piece ∈ rest, piece = [] ∨ piece = ['.'] := by
  have trail : trail path = stations front ++ [front ++ [last]] := by
    change stations (pieces path) = _
    rw [cut, stations_append_singleton, if_pos step]
  have above : (stations front).reverse.map ofPieces ++ (if isRooted path then ["/"] else []) =
      above :: further := by
    rw [← h, ancestors_of_trail trail]
  cases last : (stations front).getLast? with
  | none =>
    rw [List.getLast?_eq_none_iff.mp last] at above
    split at above
    · exact .inl (List.cons.inj above).1.symm
    · cases above
  | some station =>
    obtain ⟨some, step, rest, cut, still⟩ := eq_append_of_getLast_stations last
    obtain ⟨before, all⟩ := List.getLast?_eq_some_iff.mp last
    rw [all, List.reverse_concat] at above
    exact .inr ⟨station, rest, some, step, (List.cons.inj above).1.symm, cut, still⟩

end Inspector.Files
