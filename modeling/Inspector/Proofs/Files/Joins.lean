import Inspector.Proofs.Files.Locations

/-!
# Files in directories

A plain name is one step down and nothing else: it has no slash, so that it is a single
name, and it is neither of the two names that lead elsewhere. Joined to a directory, such a
name is the last name of the path, behind those of the directory (`names_join`), whether the
directory ends in a slash, is empty, or does not exist. So wherever the path leads, it leads to
the location of that name in the directory (`FileTree.locate_join`).

All of this needs the name to be plain. A name that starts at the root is what it
is, whatever directory it is joined to.
-/

namespace Inspector.Files

open Text

/-- A name that leads one step down. -/
structure PlainName (name : String) : Prop where
  some : name ≠ ""
  single : '/' ∉ name.toList
  moves : name ≠ "."
  down : name ≠ ".."

section Join

variable {directory name : String}

theorem PlainName.not_rooted (plain : PlainName name) : isRooted name = false := by
  refine Bool.eq_false_iff.mpr fun rooted => plain.single ?_
  exact List.mem_of_mem_head? (eq_of_beq rooted)

theorem PlainName.names_eq (plain : PlainName name) : names name = [name] := by
  have piece : segments '/' name.toList = [name.toList] := segments_of_notMem plain.single
  simp [names, piece, plain.some]

theorem join_eq (plain : PlainName name) : join directory name =
    if directory = "" ∨ endsInSlash directory then directory ++ name
    else directory ++ "/" ++ name := by
  simp [join, plain.not_rooted, endsInSlash]

/-- The names on a path are those before a slash and those behind it. -/
theorem names_slash (front back : String) : names (front ++ "/" ++ back) =
    names front ++ names back := by
  have slash : (front ++ "/" ++ back).toList = front.toList ++ '/' :: back.toList := by simp
  rw [names, names, names, slash, segments_append_cons, List.filter_append, List.map_append]

/-- A path that ends in a slash is a path with a slash behind it. -/
theorem exists_of_endsInSlash (h : endsInSlash directory) : ∃ front, directory = front ++ "/" := by
  obtain ⟨front, cut⟩ := List.getLast?_eq_some_iff.mp (eq_of_beq h)
  refine ⟨String.ofList front, String.toList_injective ?_⟩
  simpa using cut

theorem names_join (plain : PlainName name) :
    names (join directory name) = names directory ++ [name] := by
  rw [join_eq plain]
  split
  next h =>
    rcases h with rfl | slash
    · rw [String.empty_append, plain.names_eq]
      rfl
    · obtain ⟨front, rfl⟩ := exists_of_endsInSlash slash
      have nothing : names "" = [] := rfl
      have bare : names (front ++ "/") = names front := by
        simpa [nothing] using names_slash front ""
      rw [names_slash, plain.names_eq, bare]
  next => rw [names_slash, plain.names_eq]

theorem isRooted_join (plain : PlainName name) :
    isRooted (join directory name) = isRooted directory := by
  by_cases empty : directory = ""
  · subst empty
    rw [join_eq plain, if_pos (.inl rfl), String.empty_append, plain.not_rooted]
    rfl
  · have letters : directory.toList ≠ [] := by simpa using empty
    rw [join_eq plain, isRooted, isRooted]
    split <;> simp [List.head?_append_of_ne_nil _ letters]

theorem utf8ByteSize_le_join (plain : PlainName name) :
    directory.utf8ByteSize ≤ (join directory name).utf8ByteSize := by
  rw [join_eq plain]
  split <;> simp only [String.utf8ByteSize_append] <;> omega

end Join

namespace FileTree

/-- The location of a directory in which files are put: the path that is empty stands for the
working directory. -/
def folder (t : FileTree) (directory : String) : Except FileFault Location :=
  if directory = "" then .ok t.workplace else t.locate directory

/-- Where a plain name in a directory leads: to that name, in a directory that is there. -/
theorem locate_join {t : FileTree} {directory name : String} {l : Location}
    (plain : PlainName name) (leads : t.locate (join directory name) = .ok l) :
    ∃ here, t.folder directory = .ok here ∧ t.node? here = some .directory ∧
      l = here ++ [name] := by
  obtain ⟨_, short, walk⟩ := locate_eq_ok_iff.mp leads
  have start : t.start (join directory name) = t.start directory := by
    rw [FileTree.start, FileTree.start, isRooted_join plain]
  rw [names_join plain, List.foldlM_append, start] at walk
  obtain ⟨here, before, last⟩ := bind_eq_ok_iff.mp walk
  rw [List.foldlM_cons] at last
  obtain ⟨_, step, ⟨⟩⟩ := bind_eq_ok_iff.mp last
  obtain ⟨there, way⟩ := step_eq_ok step
  refine ⟨here, ?_, there, ?_⟩
  · unfold folder
    split
    next empty =>
      subst empty
      exact before
    next some =>
      have size : directory.utf8ByteSize ≤ (join directory name).utf8ByteSize :=
        utf8ByteSize_le_join plain
      exact locate_eq_ok_iff.mpr ⟨some, Nat.le_trans size short, before⟩
  · rcases way with ⟨dot, _⟩ | ⟨up, _⟩ | ⟨_, _, down⟩
    · exact (plain.moves dot).elim
    · exact (plain.down up).elim
    · exact down

/-- What is written goes to the location of its path, in place of what was there. -/
theorem write_eq_ok {t t' : FileTree} {path : String} {content : ByteArray}
    (h : t.write path content = .ok t') :
    ∃ l, t.locate path = .ok l ∧ t' = t.insert l (.file content) := by
  unfold FileTree.write at h
  split at h
  · cases h
  · cases h
  next l n _ found =>
    split at h <;> cases h
    exact ⟨l, (find_eq_ok_iff.mp found).1, rfl⟩

end FileTree

end Inspector.Files
