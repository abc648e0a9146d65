import Inspector.Proofs.Editor.Names
import Inspector.Proofs.Files.Joins
import Inspector.Proofs.Generation.Verdict
import Inspector.Proofs.Naming.Derived

/-!
# Where source goes

The directory of a source is the choice of the caller, and the name of the file comes from the
target, which somebody else may have described. So the name must not lead out of the directory.
It cannot: a target is accepted only with an identifier for a name, and neither a slash nor a
dot can be in an identifier. What is put behind it has one dot.

**The law** (`Target.built_confined`): the source of an accepted target goes to the chosen directory
under its own name, one step below it and nowhere else (`Source.Within`); or else to the file
that was chosen, as it was chosen. Nothing that a description says changes this.
-/

namespace Inspector

open Files

/-- A name that is good for one file and for nothing else. -/
structure IsFileName (name : String) : Prop where
  slash : '/' ∉ name.toList
  backslash : '\\' ∉ name.toList
  null : Char.ofNat 0 ∉ name.toList
  /-- There is one dot, before the extension. -/
  dot : ∃ stem, name = stem ++ ".cs" ∧ '.' ∉ stem.toList
  relative : isRooted name = false
  parent : name ≠ ".."

/-- Source that goes to a directory. -/
structure Source.Within (source : Source) (directory : String) : Prop where
  /-- The path is that of the directory, a slash if there is need of one, and the name. -/
  path : source.path = directory ++ (if directory = "" ∨ endsInSlash directory then "" else "/") ++
    source.fileName
  /-- The name is the one step that the path goes beyond the directory. -/
  names : names source.path = Files.names directory ++ [source.fileName]
  /-- Whatever the files are, what is written there goes to a directory that is there, and has
  this name in it. -/
  writes : ∀ (files after : FileTree) (content : ByteArray),
    files.write source.path content = .ok after →
    ∃ here, files.folder directory = .ok here ∧ files.node? here = some .directory ∧
      after = files.insert (here ++ [source.fileName]) (.file content)

/-! ## Names of files -/

section Name

variable {name : String} {c : Char}

/-- No character that ends an identifier is in a name of a file, but for the dot. -/
theorem not_mem_sourceFile (h : isIdentifier name) (foreign : continuesIdentifier c = false)
    (other : c ∉ "Editor.cs".toList) : c ∉ (Naming.sourceFile name).toList := by
  rw [Naming.sourceFile_eq, String.toList_append]
  refine fun mem => (List.mem_append.mp mem).elim (fun own => ?_) other
  rw [CSharp.continuesIdentifier_of_mem h own] at foreign
  cases foreign

theorem dot_not_mem_editorClass (h : isIdentifier name) :
    '.' ∉ (Naming.editorClass name).toList := by
  rw [Naming.editorClass, String.toList_append]
  exact fun mem => (List.mem_append.mp mem).elim (dot_not_mem h) (by decide)

theorem plainName_sourceFile (h : isIdentifier name) : PlainName (Naming.sourceFile name) := by
  -- no name that leads elsewhere has the letters of the extension
  have letter : 's' ∈ (Naming.sourceFile name).toList := by simp [Naming.sourceFile_eq]
  have apart {other : String} (none : 's' ∉ other.toList) : Naming.sourceFile name ≠ other :=
    fun same => none (same ▸ letter)
  exact ⟨apart (by decide), not_mem_sourceFile h (by decide) (by decide), apart (by decide),
    apart (by decide)⟩

theorem isFileName_sourceFile (h : isIdentifier name) : IsFileName (Naming.sourceFile name) := by
  have plain := plainName_sourceFile h
  exact ⟨plain.single, not_mem_sourceFile h (by decide) (by decide),
    not_mem_sourceFile h (by decide) (by decide), ⟨_, rfl, dot_not_mem_editorClass h⟩,
    plain.not_rooted, plain.down⟩

end Name

/-! ## The law -/

theorem Source.Within.of_join {source : Source} {directory : String}
    (plain : PlainName source.fileName) (joined : source.path = join directory source.fileName) :
    source.Within directory := by
  refine ⟨?_, ?_, fun files after content written => ?_⟩
  · rw [joined, join_eq plain]
    split <;> simp
  · rw [joined, names_join plain]
  · obtain ⟨l, located, rfl⟩ := FileTree.write_eq_ok written
    rw [joined] at located
    obtain ⟨here, folder, there, rfl⟩ := FileTree.locate_join plain located
    exact ⟨here, folder, there, rfl⟩

namespace Target

/-- The source of an accepted target goes where its caller has chosen. -/
theorem built_confined {t : Target}
    (accepted : (Generation.build (some t) .initial).answer = .ok ()) :
    (∀ directory, ∃ source,
      (generateEditor (some t) (.directory directory)).answer = .ok (some source) ∧
      source.fileName = t.name ++ "Editor.cs" ∧ IsFileName source.fileName ∧
      source.Within directory) ∧
    ∀ path, ∃ source, (generateEditor (some t) (.file path)).answer = .ok (some source) ∧
      source.fileName = t.name ++ "Editor.cs" ∧ IsFileName source.fileName ∧
      source.path = path := by
  have acceptable := acceptable_of_build accepted
  have derived := Naming.sourceFile_eq t.name
  have name := isFileName_sourceFile acceptable.name
  refine ⟨fun directory => ?_, fun path => ?_⟩
  · exact ⟨_, acceptable.answer_generateEditor _, derived, name,
      .of_join (plainName_sourceFile acceptable.name) rfl⟩
  · exact ⟨_, acceptable.answer_generateEditor _, derived, name, rfl⟩

/-- A target whose texts, where they may be anything, look like paths. -/
def gate : Target where
  name := "Straße_7"
  scope := some "Game.World"
  lineage := ["../..", "UnityEngine.ScriptableObject"]
  fields := [⟨"bolt", "../../etc", .isPublic, [.header "/", .unrecognized "..\\"]⟩]

theorem built_confined_gate :
    (Generation.build (some gate) .initial).answer = .ok () ∧
    (∃ source, (generateEditor (some gate) (.directory "../Editors/")).answer = .ok (some source) ∧
      source.path = "../Editors/Straße_7Editor.cs" ∧
      names source.path = ["..", "Editors", "Straße_7Editor.cs"] ∧
      source.Within "../Editors/") ∧
    ∃ source, (generateEditor (some gate) (.file "/tmp/x")).answer = .ok (some source) ∧
      source.fileName = "Straße_7Editor.cs" ∧ source.path = "/tmp/x" := by
  have accepted : (Generation.build (some gate) .initial).answer = .ok () := rfl
  obtain ⟨below, chosen⟩ := built_confined accepted
  obtain ⟨source, answer, name, _, within⟩ := below "../Editors/"
  obtain ⟨other, answer', name', _, path⟩ := chosen "/tmp/x"
  have file : source.fileName = "Straße_7Editor.cs" := name
  refine ⟨accepted, ⟨source, answer, ?_, ?_, within⟩, other, answer', name', path⟩
  · rw [within.path, file]
    rfl
  · rw [within.names, file]
    rfl

end Target

end Inspector
