import Inspector.Files.Tree
import Inspector.Proofs.Answers
import Inspector.Proofs.Files.Paths

/-!
# What changes in a file tree

A change touches one location, and everything else stays. How far a path leads depends on
nothing but the directories on the way (`Carries.locate`), so that a change which takes no
directory away leaves every path that led somewhere where it was.

The way to a file passes through a directory just above it, since the last step starts in one.
So the program can rely on that directory when it has taken the file away
(`directory_above`).
-/

namespace Inspector.Files

open Text

namespace FileTree

variable {t t' t'' : FileTree} {l l' here : Location} {path : String}

/-! ## One location -/

theorem node?_nil (t : FileTree) : t.node? [] = some .directory := rfl

theorem node?_of_ne (h : l ≠ []) : t.node? l = t.nodes.lookup l := if_neg h

theorem lookup_cons_ite (l l' : Location) (n : Node) (rest : List (Location × Node)) :
    ((l, n) :: rest).lookup l' = if l' = l then some n else rest.lookup l' := by
  rw [List.lookup_cons]
  by_cases same : l' = l
  · rw [beq_iff_eq.mpr same, if_pos same]
  · rw [beq_eq_false_iff_ne.mpr same, if_neg same]

theorem lookup_filter_ne (nodes : List (Location × Node)) (l l' : Location) :
    (nodes.filter fun entry => entry.1 != l).lookup l' =
      if l' = l then none else nodes.lookup l' := by
  induction nodes with
  | nil => simp
  | cons entry rest ih =>
    obtain ⟨own, n⟩ := entry
    rw [List.filter_cons]
    by_cases same : own = l
    · subst same
      rw [if_neg (by simp), ih, lookup_cons_ite]
      split <;> rfl
    · rw [if_pos (by simpa using same), lookup_cons_ite, lookup_cons_ite, ih]
      by_cases here : l' = own
      · rw [if_pos here, if_pos here, if_neg (here ▸ same)]
      · rw [if_neg here, if_neg here]

theorem node?_erase (h : l ≠ []) :
    (t.erase l).node? l' = if l' = l then none else t.node? l' := by
  by_cases root : l' = []
  · subst root
    rw [node?_nil, node?_nil, if_neg (Ne.symm h)]
  · rw [node?_of_ne root, node?_of_ne root]
    exact lookup_filter_ne t.nodes l l'

theorem node?_insert (h : l ≠ []) (n : Node) :
    (t.insert l n).node? l' = if l' = l then some n else t.node? l' := by
  by_cases root : l' = []
  · subst root
    rw [node?_nil, node?_nil, if_neg (Ne.symm h)]
  · rw [node?_of_ne root]
    change ((l, n) :: (t.erase l).nodes).lookup l' = _
    rw [lookup_cons_ite, ← node?_of_ne root, node?_erase h]
    split <;> rfl

/-- The content of the file at a location, if there is one. -/
def fileAt? (t : FileTree) (l : Location) : Option ByteArray :=
  match t.node? l with
  | some (.file content) => some content
  | _ => none

theorem fileAt?_erase (h : l ≠ []) (other : l' ≠ l) : (t.erase l).fileAt? l' = t.fileAt? l' := by
  rw [fileAt?, node?_erase h, if_neg other, fileAt?]

theorem fileAt?_insert (h : l ≠ []) (other : l' ≠ l) (n : Node) :
    (t.insert l n).fileAt? l' = t.fileAt? l' := by
  rw [fileAt?, node?_insert h, if_neg other, fileAt?]

/-! ## Where paths lead -/

theorem step_eq_ok {name : String} (h : t.step here name = .ok l) :
    t.node? here = some .directory ∧
      ((name = "." ∧ l = here) ∨ (name = ".." ∧ l = here.dropLast) ∨
        (name ≠ "." ∧ name ≠ ".." ∧ l = here ++ [name])) := by
  unfold step at h
  split at h
  · cases h
  · cases h
  next directory =>
    refine ⟨directory, ?_⟩
    split at h
    next dot =>
      cases h
      exact .inl ⟨dot, rfl⟩
    next moves =>
      split at h
      next up =>
        cases h
        exact .inr (.inl ⟨up, rfl⟩)
      next down =>
        split at h
        · cases h
        · cases h
          exact .inr (.inr ⟨moves, down, rfl⟩)

/-- Where a path starts. -/
def start (t : FileTree) (path : String) : Location :=
  if isRooted path then [] else t.workplace

theorem locate_eq_ok_iff : t.locate path = .ok l ↔
    path ≠ "" ∧ path.utf8ByteSize ≤ longestPath ∧
      (names path).foldlM t.step (t.start path) = .ok l := by
  unfold locate
  by_cases empty : path = ""
  · simp [empty]
  · by_cases long : longestPath < path.utf8ByteSize
    · simp [empty, long, Nat.not_le_of_lt long]
    · rw [if_neg empty, if_neg long]
      simp [empty, Nat.le_of_not_lt long, start]

/-- The directories of a tree are directories of another one, too. -/
structure Carries (t t' : FileTree) : Prop where
  workplace : t'.workplace = t.workplace
  directories : ∀ l, t.node? l = some .directory → t'.node? l = some .directory

namespace Carries

theorem refl (t : FileTree) : Carries t t := ⟨rfl, fun _ => id⟩

theorem trans (h : Carries t t') (h' : Carries t' t'') : Carries t t'' :=
  ⟨h'.workplace.trans h.workplace, fun l there => h'.directories l (h.directories l there)⟩

/-- What is put in the place of anything but a directory takes no directory away. -/
theorem insert (h : l ≠ []) (other : t.node? l ≠ some .directory) (n : Node) :
    Carries t (t.insert l n) := by
  refine ⟨rfl, fun l' there => ?_⟩
  rw [node?_insert h, if_neg, there]
  rintro rfl
  exact other there

theorem erase (h : l ≠ []) (other : t.node? l ≠ some .directory) : Carries t (t.erase l) := by
  refine ⟨rfl, fun l' there => ?_⟩
  rw [node?_erase h, if_neg, there]
  rintro rfl
  exact other there

theorem step (h : Carries t t') {name : String} (leads : t.step here name = .ok l) :
    t'.step here name = .ok l := by
  have there := (step_eq_ok leads).1
  rw [FileTree.step, there] at leads
  rw [FileTree.step, h.directories _ there]
  exact leads

theorem walk (h : Carries t t') {names : List String} (leads : names.foldlM t.step here = .ok l) :
    names.foldlM t'.step here = .ok l := by
  induction names generalizing here with
  | nil => exact leads
  | cons name rest ih =>
    rw [List.foldlM_cons] at leads ⊢
    obtain ⟨next, first, onward⟩ := bind_eq_ok_iff.mp leads
    exact bind_eq_ok_iff.mpr ⟨next, h.step first, ih onward⟩

/-- A path that led somewhere still leads there. -/
theorem locate (h : Carries t t') (leads : t.locate path = .ok l) : t'.locate path = .ok l := by
  obtain ⟨named, short, walk⟩ := locate_eq_ok_iff.mp leads
  refine locate_eq_ok_iff.mpr ⟨named, short, ?_⟩
  rw [start, h.workplace]
  exact h.walk walk

end Carries

/-! ## The way to a file -/

theorem find_eq_ok_iff {n : Option Node} :
    t.find path = .ok (l, n) ↔ t.locate path = .ok l ∧ t.node? l = n := by
  rw [find]
  cases t.locate path with
  | error fault => simp [Except.map]
  | ok own =>
    simp only [Except.map, Except.ok.injEq, Prod.mk.injEq]
    exact and_congr_right fun same => same ▸ Iff.rfl

/-- The last piece of a path is a step from where the others lead. -/
theorem last_step {front : List (List Char)} {last : List Char}
    (cut : pieces path = front ++ [last]) (some : last ≠ []) (leads : t.locate path = .ok l) :
    ∃ here, (namesOf front).foldlM t.step (t.start path) = .ok here ∧
      t.step here (String.ofList last) = .ok l := by
  have walk := (locate_eq_ok_iff.mp leads).2.2
  have one : namesOf [last] = [String.ofList last] := by simp [namesOf, some]
  rw [names_eq, cut, namesOf_append, one, List.foldlM_append] at walk
  obtain ⟨here, before, step⟩ := bind_eq_ok_iff.mp walk
  rw [List.foldlM_cons] at step
  obtain ⟨_, own, ⟨⟩⟩ := bind_eq_ok_iff.mp step
  exact ⟨here, before, own⟩

/-- Pieces that lead nowhere stay where they are. -/
theorem stay {rest : List (List Char)} (still : ∀ piece ∈ rest, piece = [] ∨ piece = ['.'])
    (leads : (namesOf rest).foldlM t.step here = .ok l) : l = here := by
  induction rest with
  | nil =>
    cases leads
    rfl
  | cons piece rest ih =>
    obtain ⟨own, others⟩ := List.forall_mem_cons.mp still
    rcases own with rfl | rfl
    · exact ih others leads
    · have dot : namesOf (['.'] :: rest) = "." :: namesOf rest := rfl
      rw [dot, List.foldlM_cons] at leads
      obtain ⟨next, first, onward⟩ := bind_eq_ok_iff.mp leads
      rcases (step_eq_ok first).2 with ⟨_, rfl⟩ | ⟨up, _⟩ | ⟨moves, _⟩
      · exact ih others onward
      · exact absurd up (by decide)
      · exact (moves rfl).elim

theorem find_root (t : FileTree) : t.find "/" = .ok ([], some .directory) := rfl

/-- A path that goes on behind some pieces starts where these start. -/
theorem start_ofPieces (t : FileTree) {front back : List (List Char)} (more : back ≠ [])
    (some : ofPieces front ≠ "") (cut : pieces path = front ++ back) :
    t.start (ofPieces front) = t.start path ∧
      (ofPieces front).utf8ByteSize ≤ path.utf8ByteSize := by
  have front_ne : front ≠ [] := by
    rintro rfl
    exact some rfl
  have joined : path = ofPieces front ++ "/" ++ ofPieces back := by
    rw [← ofPieces_append front_ne more, ← cut, ofPieces_pieces]
  have letters : (ofPieces front).toList ≠ [] := by simpa using some
  constructor
  · have rooted : isRooted path = isRooted (ofPieces front) := by
      rw [isRooted, joined, isRooted, String.append_assoc, String.toList_append,
        List.head?_append_of_ne_nil _ letters]
    rw [start, start, rooted]
  · rw [joined, String.utf8ByteSize_append, String.utf8ByteSize_append]
    omega

/-- Just above a file there is a directory. -/
theorem directory_above {content : ByteArray} (found : t.find path = .ok (l, some (.file content)))
    (bare : endsInSlash path = false) {above : String} {further : List String}
    (h : ancestors path = above :: further) :
    ∃ here, t.find above = .ok (here, some .directory) := by
  obtain ⟨leads, file⟩ := find_eq_ok_iff.mp found
  obtain ⟨named, short, _⟩ := locate_eq_ok_iff.mp leads
  obtain ⟨front, last, cut⟩ : ∃ front last, pieces path = front ++ [last] :=
    ⟨_, _, (List.dropLast_concat_getLast (segments_ne_nil '/' path.toList)).symm⟩
  have some : last ≠ [] := by
    rintro rfl
    rw [endsInSlash_of_last_empty cut named] at bare
    cases bare
  obtain ⟨here, before, step⟩ := last_step cut some leads
  obtain ⟨directory, way⟩ := step_eq_ok step
  -- a dot at the end would lead to the directory itself
  have moves : last ≠ ['.'] := by
    rintro rfl
    rcases way with ⟨_, rfl⟩ | ⟨up, _⟩ | ⟨moves, _⟩
    · rw [directory] at file
      cases file
    · exact absurd up (by decide)
    · exact moves rfl
  rcases above_of_ancestors cut (endsInStep_of_ne some moves) h with
    rfl | ⟨station, rest, given, ends, rfl, rfl, still⟩
  · exact ⟨[], t.find_root⟩
  · rw [List.append_assoc] at cut
    have free : ∀ piece ∈ station, '/' ∉ piece := by
      intro piece mem
      have own : piece ∈ pieces path := by
        rw [cut]
        exact List.mem_append_left _ mem
      exact not_mem_of_mem_segments own
    have own : pieces (ofPieces station) = station := pieces_ofPieces given free
    have text : ofPieces station ≠ "" := by
      intro empty
      rw [empty] at own
      rw [← own] at ends
      exact absurd ends (by decide)
    obtain ⟨start, size⟩ := t.start_ofPieces (by simp) text cut
    rw [namesOf_append, List.foldlM_append] at before
    obtain ⟨there, middle, onward⟩ := bind_eq_ok_iff.mp before
    cases stay still onward
    refine ⟨here, find_eq_ok_iff.mpr ⟨locate_eq_ok_iff.mpr ⟨text, ?_, ?_⟩, directory⟩⟩
    · exact Nat.le_trans size short
    · rw [names_eq, own, start, middle]

/-- A directory at the end of a path stays there. -/
theorem Carries.find (h : Carries t t') (there : t.find path = .ok (l, some .directory)) :
    t'.find path = .ok (l, some .directory) := by
  obtain ⟨leads, directory⟩ := find_eq_ok_iff.mp there
  exact find_eq_ok_iff.mpr ⟨h.locate leads, h.directories l directory⟩

/-! ## Changes -/

/-- A tree that has more directories, perhaps, and the same files. -/
structure Grows (t t' : FileTree) : Prop extends Carries t t' where
  files : ∀ l, t'.fileAt? l = t.fileAt? l

theorem Grows.refl (t : FileTree) : Grows t t := ⟨.refl t, fun _ => rfl⟩

theorem Grows.trans (h : Grows t t') (h' : Grows t' t'') : Grows t t'' :=
  ⟨h.toCarries.trans h'.toCarries, fun l => (h'.files l).trans (h.files l)⟩

/-- Where there is no directory is not the root. -/
theorem ne_root (other : t.node? l ≠ some .directory) : l ≠ [] := by
  rintro rfl
  exact other t.node?_nil

theorem fileAt?_eq_none (h : t.node? l = none) : t.fileAt? l = none := by
  rw [fileAt?, h]

theorem Grows.makeDirectory (h : t.makeDirectory path = .ok t') : Grows t t' := by
  unfold FileTree.makeDirectory at h
  split at h
  · cases h
  next l found =>
    cases h
    obtain ⟨_, none⟩ := find_eq_ok_iff.mp found
    have other : t.node? l ≠ some .directory := by simp [none]
    refine ⟨.insert (ne_root other) other _, fun l' => ?_⟩
    by_cases same : l' = l
    · rw [same, fileAt?_eq_none none, fileAt?, node?_insert (ne_root other), if_pos rfl]
    · exact fileAt?_insert (ne_root other) same _
  · cases h

/-- A file that can be read is at a location. -/
theorem find_of_read {content : ByteArray} (h : t.read path = .ok content) :
    endsInSlash path = false ∧ ∃ l, t.find path = .ok (l, some (.file content)) := by
  unfold read at h
  split at h
  · cases h
  · cases h
  · cases h
  next l own found =>
    split at h
    · cases h
    next bare =>
      cases h
      exact ⟨Bool.eq_false_iff.mpr bare, l, found⟩

/-- A tree in which some content can be read at a path, which leads to a location. At every other
location there are the files of another tree. -/
structure WithFile (t t' : FileTree) (path : String) (content : ByteArray) (l : Location) :
    Prop where
  reads : t'.read path = .ok content
  leads : t'.locate path = .ok l
  rest : ∀ l' ≠ l, t'.fileAt? l' = t.fileAt? l'

theorem WithFile.insert (content : ByteArray) (bare : endsInSlash path = false)
    (leads : t.locate path = .ok l) (other : t.node? l ≠ some .directory) :
    WithFile t (t.insert l (.file content)) path content l := by
  have root := ne_root other
  have still := (Carries.insert root other (.file content)).locate leads
  have found : (t.insert l (.file content)).find path = .ok (l, some (.file content)) := by
    rw [find_eq_ok_iff, node?_insert root, if_pos rfl]
    exact ⟨still, rfl⟩
  exact ⟨by simp [read, found, bare], still, fun l' apart => fileAt?_insert root apart _⟩

/-- What was at the location of the file does not matter. -/
theorem WithFile.of_rest {content : ByteArray} (h : WithFile t' t'' path content l)
    (rest : ∀ l' ≠ l, t'.fileAt? l' = t.fileAt? l') : WithFile t t'' path content l :=
  ⟨h.reads, h.leads, fun l' apart => (h.rest l' apart).trans (rest l' apart)⟩

/-- What can be written is at its path afterwards. -/
theorem WithFile.write {content : ByteArray} (h : t.write path content = .ok t') :
    ∃ l, WithFile t t' path content l := by
  unfold FileTree.write at h
  split at h
  · cases h
  · cases h
  next l n other found =>
    split at h
    · cases h
    next bare =>
      cases h
      obtain ⟨leads, node⟩ := find_eq_ok_iff.mp found
      have vacant : t.node? l ≠ some .directory := node ▸ fun same => other same
      exact ⟨l, .insert content (Bool.eq_false_iff.mpr bare) leads vacant⟩

/-- A file that can be read can be removed, and then its path can be written. -/
theorem remove_then_write {content : ByteArray} (h : t.read path = .ok content) :
    ∃ l, t.remove path = .ok (t.erase l) ∧ Carries t (t.erase l) ∧
      ∀ text, ∃ t', (t.erase l).write path text = .ok t' ∧ WithFile t t' path text l := by
  obtain ⟨bare, l, found⟩ := find_of_read h
  obtain ⟨leads, file⟩ := find_eq_ok_iff.mp found
  have other : t.node? l ≠ some .directory := by simp [file]
  have root := ne_root other
  have erased : Carries t (t.erase l) := .erase root other
  have vacant : (t.erase l).node? l = none := by rw [node?_erase root, if_pos rfl]
  have again : (t.erase l).find path = .ok (l, none) :=
    find_eq_ok_iff.mpr ⟨erased.locate leads, vacant⟩
  refine ⟨l, by simp [remove, found, bare], erased, fun text =>
    ⟨(t.erase l).insert l (.file text), ?_, ?_⟩⟩
  · simp [FileTree.write, again, bare]
  · have file := WithFile.insert text bare (erased.locate leads) (by simp [vacant])
    exact file.of_rest fun l' apart => fileAt?_erase root apart

/-- A directory that is there cannot be made. -/
theorem makeDirectory_of_there (h : t.find path = .ok (l, some .directory)) :
    t.makeDirectory path = .error .occupied := by
  simp [makeDirectory, h]

end FileTree

end Inspector.Files
