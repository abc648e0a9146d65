import Inspector.Command.Console
import Inspector.Proofs.Command.CommandLine
import Inspector.Proofs.Command.Runs
import Inspector.Proofs.Files.Locations

/-!
# What is written

A job that saves source takes three steps: it removes the file that is there, makes the
directories above it, and writes. A failure in the middle would leave the person with neither the
old file nor the new one. It does not come to that: where there was a file, the directory
above it is there, so that no directory has to be made, and what has been taken away can be
put there again (`run_save`).

**The law** (`leavesFiles`): a command line that generates to a path and succeeds leaves
the source at that path, which is the text that it would have printed, and every other file as
it was. Every other command line leaves all files as they were, whatever it fails at.
-/

namespace Inspector.Command

open Diagnostics Files

/-! ## Changes -/

section Change

variable {α : Type} {t t' : FileTree} {c : Change} (next : Except FileFault Unit → Script α)

theorem run_change (h : t.change c = .ok t') :
    (Script.change c next).run t = (next (.ok ())).run t' := by
  rw [Script.run, h]

theorem run_change_fails {fault : FileFault} (h : t.change c = .error fault) :
    (Script.change c next).run t = (next (.error fault)).run t := by
  rw [Script.run, h]

end Change

/-! ## Making directories -/

section Saving

variable {t : FileTree} {path : String}

theorem run_settle (path : String) (result : Except FileFault Unit) (t : FileTree) :
    ∃ made, (makeDirectories.settle path result).run t = ⟨t, "", [], .ok made⟩ := by
  cases result with
  | ok => exact ⟨_, rfl⟩
  | error fault => exact ⟨_, rfl⟩

/-- Making directories takes nothing away, and it never gives up. -/
theorem run_makeDirectories (paths : List String) (t : FileTree) :
    ∃ t' made, (makeDirectories paths).run t = ⟨t', "", [], .ok made⟩ ∧ t.Grows t' := by
  induction paths generalizing t with
  | nil => exact ⟨t, _, rfl, .refl t⟩
  | cons path above ih =>
    rw [makeDirectories]
    cases first : t.change (.makeDirectory path) with
    | ok after =>
      rw [run_change _ first]
      exact ⟨after, _, rfl, .makeDirectory first⟩
    | error fault =>
      rw [run_change_fails _ first]
      cases fault with
      | missing =>
        -- the directories above are made first, and then it is tried again
        obtain ⟨t', made, run, grows⟩ := ih t
        rw [Script.run_bind, run]
        cases made with
        | error fault => exact ⟨t', .error fault, rfl, grows⟩
        | ok =>
          rw [Run.andThen_ok]
          dsimp only
          cases second : t'.change (.makeDirectory path) with
          | ok after =>
            rw [run_change _ second]
            exact ⟨after, _, rfl, grows.trans (.makeDirectory second)⟩
          | error fault =>
            rw [run_change_fails _ second]
            obtain ⟨made, run⟩ := run_settle path (.error fault) t'
            exact ⟨t', made, run, grows⟩
      | noDirectory | directory | occupied | longName | other =>
        obtain ⟨made, run⟩ := run_settle path (.error _) t
        exact ⟨t, made, run, .refl t⟩

/-- Where the nearest directory is there, none has to be made. -/
theorem run_makeDirectories_there {here : Location}
    (there : t.find path = .ok (here, some .directory)) (above : List String) :
    (makeDirectories (path :: above)).run t = ⟨t, "", [], .ok (.ok ())⟩ := by
  have occupied : t.change (.makeDirectory path) = .error .occupied :=
    FileTree.makeDirectory_of_there there
  have answer : t.ask (.isDirectory path) = true := by
    rw [FileTree.ask, there]
  rw [makeDirectories, run_change_fails _ occupied]
  change (Script.ask (.isDirectory path) _).run t = _
  rw [Script.run, answer]
  rfl

theorem run_prepare (path : String) (t : FileTree) :
    ∃ t' answer, (prepare path).run t = ⟨t', "", [], answer⟩ ∧ t.Grows t' := by
  unfold prepare
  split
  · exact ⟨t, _, rfl, .refl t⟩
  next above further _ =>
    obtain ⟨t', made, run, grows⟩ := run_makeDirectories (above :: further) t
    refine ⟨t', made.mapError (.notMade above), ?_, grows⟩
    rw [Script.run_bind, run, Run.andThen_ok, Script.run_orGiveUp]

theorem run_prepare_there (there : ∀ above further, ancestors path = above :: further →
    ∃ here, t.find above = .ok (here, some .directory)) :
    (prepare path).run t = ⟨t, "", [], .ok ()⟩ := by
  unfold prepare
  split
  · rfl
  next above further list =>
    obtain ⟨here, directory⟩ := there above further list
    rw [Script.run_bind, run_makeDirectories_there directory]
    rfl

/-! ## Saving -/

theorem Complaint.status_ne_zero (complaint : Complaint) : complaint.status ≠ 0 := by
  cases complaint with
  | failed failure =>
    cases failure with
    | refused refusal => cases refusal <;> exact Nat.succ_ne_zero _
    | malformed role => exact Nat.succ_ne_zero _
  | unreadable | undecodable | unusable | notRemoved | notMade | notWritten =>
    exact Nat.succ_ne_zero _

/-- What a run that saves a content at a path does to the files: it puts the content there, or
else it gives up and does nothing. -/
def Saves (t : FileTree) (path : String) (content : ByteArray) (r : Run Unit) : Prop :=
  (r.answer = .ok () ∧ ∃ l, t.WithFile r.files path content l) ∨
    (r.answer ≠ .ok () ∧ ∀ l, r.files.fileAt? l = t.fileAt? l)

/-- A write is all or nothing. -/
theorem Saves.write (t : FileTree) (path : String) (content : ByteArray) :
    Saves t path content
      ((Script.change (.write path content) (.orGiveUp (.notWritten path))).run t) := by
  cases write : t.change (.write path content) with
  | ok after =>
    rw [run_change _ write]
    exact .inl ⟨rfl, FileTree.WithFile.write write⟩
  | error fault =>
    rw [run_change_fails _ write]
    exact .inr ⟨nofun, fun _ => rfl⟩

theorem Saves.of_grows {t' : FileTree} {content : ByteArray} {r : Run Unit} (grows : t.Grows t')
    (h : Saves t' path content r) : Saves t path content r := by
  rcases h with ⟨success, l, there⟩ | ⟨failure, same⟩
  · exact .inl ⟨success, l, there.of_rest fun l' _ => grows.files l'⟩
  · exact .inr ⟨failure, fun l => (same l).trans (grows.files l)⟩

theorem run_clear_nothing (h : (t.read path).isOk = false) :
    (clear path).run t = ⟨t, "", [], .ok ()⟩ := by
  have answer : t.ask (.isFile path) = false := h
  rw [clear, Script.run, answer]
  rfl

theorem run_clear_file {t' : FileTree} (h : (t.read path).isOk) (removed : t.remove path = .ok t') :
    (clear path).run t = ⟨t', "", [staleEvent path], .ok ()⟩ := by
  have answer : t.ask (.isFile path) = true := h
  have change : t.change (.remove path) = .ok t' := removed
  rw [clear, Script.run, answer]
  change (Script.say _ >>= fun _ => Script.change _ _).run t = _
  rw [Script.run_bind]
  change (((Script.change _ _).run t).afterEvents [staleEvent path]).afterText "" = _
  rw [run_change _ change]
  rfl

/-- A file that is in the way gives way. -/
theorem run_save_over {source : Source} {content : ByteArray}
    (read : t.read source.path = .ok content) :
    ((save source).run t).answer = .ok () ∧
      ∃ l, t.WithFile ((save source).run t).files source.path source.text.toUTF8 l := by
  obtain ⟨l, removed, kept, writes⟩ := FileTree.remove_then_write read
  obtain ⟨t', write, there⟩ := writes source.text.toUTF8
  obtain ⟨bare, _, found⟩ := FileTree.find_of_read read
  -- what is above the file is still there without it
  have prepared : (prepare source.path).run (t.erase l) = ⟨t.erase l, "", [], .ok ()⟩ := by
    refine run_prepare_there fun above further list => ?_
    obtain ⟨here, directory⟩ := FileTree.directory_above found bare list
    exact ⟨here, kept.find directory⟩
  have written := run_change (.orGiveUp (.notWritten source.path)) (c := .write _ _) write
  rw [save, Script.run_bind, run_clear_file (by rw [read]; rfl) removed]
  simp only [Run.andThen, Script.run_bind, prepared, written]
  exact ⟨rfl, l, there⟩

theorem run_save (source : Source) (t : FileTree) :
    Saves t source.path source.text.toUTF8 ((save source).run t) := by
  cases read : t.read source.path with
  | error fault =>
    -- there is no file, and whatever comes next only adds directories
    obtain ⟨t', answer, run, grows⟩ := run_prepare source.path t
    rw [save, Script.run_bind, run_clear_nothing (by rw [read]; rfl), Run.andThen_ok,
      Script.run_bind, run]
    cases answer with
    | error complaint => exact .inr ⟨nofun, grows.files⟩
    | ok =>
      rw [Run.andThen_ok]
      exact .of_grows grows (.write t' source.path source.text.toUTF8)
  | ok content => exact .inl (run_save_over read)

/-- Beside the saving, a delivery only prints. -/
theorem run_deliver_save (source : Source) (t : FileTree) :
    ∃ printed, (deliver false source).run t = { (save source).run t with printed } := by
  have deliver : deliver false source =
      save source >>= fun _ => Script.printLine ("✓ Wrote " ++ source.path) := rfl
  rw [deliver, Script.run_bind]
  obtain ⟨files, printed, events, answer⟩ := (save source).run t
  cases answer with
  | ok =>
    simp only [Run.andThen, Script.run_printLine, Run.afterEvents, Run.afterText, List.append_nil]
    exact ⟨_, rfl⟩
  | error complaint => exact ⟨_, rfl⟩

theorem run_deliver_file (source : Source) (t : FileTree) :
    Saves t source.path source.text.toUTF8 ((deliver false source).run t) := by
  obtain ⟨printed, run⟩ := run_deliver_save source t
  rw [run]
  exact run_save source t

end Saving

/-! ## Jobs -/

section Jobs

variable {files : FileTree} {input : String} {destination : Destination}

theorem files_check (input : String) (files : FileTree) :
    ((check input).run files).files = files := by
  cases verdict files input with
  | undescribed h => rw [run_check_undescribed h]
  | refused h refuse => rw [run_check_refused h refuse]
  | accepted h acceptable => rw [run_check_accepted h acceptable]

theorem files_generate_printed (own : destination ≠ .cancelled) :
    ((generate input destination true).run files).files = files := by
  cases verdict files input with
  | undescribed h => rw [run_generate_undescribed destination true h]
  | refused h refuse => rw [run_generate_refused destination true h refuse]
  | @accepted t h acceptable =>
    obtain ⟨path, given⟩ := exists_path own (Naming.sourceFile t.name)
    rw [run_generate_printed destination h acceptable given]

/-- A job that generates to a path gives up before it saves, or it saves the text of the
editor. -/
theorem run_generate_file (own : destination ≠ .cancelled) :
    (((generate input destination false).run files).answer ≠ .ok () ∧
      ((generate input destination false).run files).files = files) ∨
    ∃ t path, Describes files input t ∧ t.Acceptable ∧
      destination.path? (Naming.sourceFile t.name) = some path ∧
      Saves files path t.editor.text.toUTF8 ((generate input destination false).run files) := by
  cases verdict files input with
  | undescribed h =>
    rw [run_generate_undescribed destination false h]
    exact .inl ⟨nofun, rfl⟩
  | refused h refuse =>
    rw [run_generate_refused destination false h refuse]
    exact .inl ⟨nofun, rfl⟩
  | @accepted t h acceptable =>
    obtain ⟨path, given⟩ := exists_path own (Naming.sourceFile t.name)
    rw [run_generate_accepted destination false h acceptable given]
    exact .inr ⟨t, path, described_eq_ok_iff.mp h, acceptable, given,
      run_deliver_file (sourceAt t path) files⟩

theorem generate_file_of_success (own : destination ≠ .cancelled)
    (success : ((generate input destination false).run files).answer = .ok ()) :
    ∃ t path l, Describes files input t ∧ t.Acceptable ∧
      destination.path? (Naming.sourceFile t.name) = some path ∧
      files.WithFile ((generate input destination false).run files).files path
        t.editor.text.toUTF8 l := by
  rcases run_generate_file own with ⟨failure, _⟩ | ⟨t, path, describes, acceptable, given, saves⟩
  · exact (failure success).elim
  · rcases saves with ⟨_, l, there⟩ | ⟨failure, _⟩
    · exact ⟨t, path, l, describes, acceptable, given, there⟩
    · exact (failure success).elim

theorem generate_file_of_failure (own : destination ≠ .cancelled)
    (failure : ((generate input destination false).run files).answer ≠ .ok ()) (l : Location) :
    ((generate input destination false).run files).files.fileAt? l = files.fileAt? l := by
  rcases run_generate_file own with ⟨_, same⟩ | ⟨_, _, _, _, _, saves⟩
  · rw [same]
  · rcases saves with ⟨success, _⟩ | ⟨_, same⟩
    · exact (failure success).elim
    · exact same l

theorem exitStatus_eq_zero_iff {answer : Except Complaint Unit} :
    exitStatus answer = 0 ↔ answer = .ok () := by
  cases answer with
  | ok => exact iff_of_true rfl rfl
  | error complaint => exact iff_of_false complaint.status_ne_zero nofun

/-- An input prints a text: generated to the output, it succeeds with this text, wherever it
would go otherwise and whoever follows. -/
def Prints (files : FileTree) (input text : String) : Prop :=
  ∀ (audience : Audience) (destination : Destination), destination ≠ .cancelled →
    ((Job.generate input destination true).ending audience files).status = 0 ∧
      ((Job.generate input destination true).ending audience files).output = text

theorem prints_text {t : Target} (describes : Describes files input t) (acceptable : t.Acceptable) :
    Prints files input t.editor.text := by
  intro audience destination own
  obtain ⟨path, given⟩ := exists_path own (Naming.sourceFile t.name)
  have run := run_generate_printed destination (described_eq_ok_iff.mpr describes) acceptable given
  rw [Job.ending, Job.script, run]
  exact ⟨rfl, rfl⟩

end Jobs

/-! ## The law -/

/-- What a command line does to the files. -/
structure LeavesFiles (filter : Option String) (files : FileTree) (arguments : List String) :
    Prop where
  /-- If it generates to a path and succeeds, then the source can be read at that path: what is
  printed for the same input. All other files are as they were. -/
  written {verbose : Bool} {input : String} {destination : Destination}
    (generates : Invocation.read arguments = .perform verbose (.generate input destination false))
    (success : ((Invocation.read arguments).ending filter files).status = 0) :
    ∃ given t text l, GivesToGenerate arguments given ∧ given.lookup .input = some input ∧
      Describes files input t ∧ Prints files input text ∧
      files.WithFile ((Invocation.read arguments).ending filter files).files
        (given.sourcePath t.name) text.toUTF8 l
  /-- Otherwise all files are as they were. -/
  untouched (otherwise : ∀ verbose input destination,
      Invocation.read arguments = .perform verbose (.generate input destination false) →
        ((Invocation.read arguments).ending filter files).status ≠ 0) (l : Location) :
    ((Invocation.read arguments).ending filter files).files.fileAt? l = files.fileAt? l

/-- A command line writes one file or none. -/
theorem leavesFiles (filter : Option String) (files : FileTree) (arguments : List String) :
    LeavesFiles filter files arguments where
  written {verbose input destination} generates success := by
    obtain ⟨given, options, asked, wanted, _⟩ := read_generate generates
    rw [generates] at success ⊢
    obtain ⟨t, path, l, describes, acceptable, there, file⟩ :=
      generate_file_of_success (Given.ne_cancelled wanted) (exitStatus_eq_zero_iff.mp success)
    rw [Given.path?_of_destination t.name wanted] at there
    cases there
    exact ⟨given, t, t.editor.text, l, options, asked, describes,
      prints_text describes acceptable, file⟩
  untouched otherwise l := by
    cases reading : Invocation.read arguments with
    | rejected | help | version => rfl
    | perform verbose job =>
      cases job with
      | check input =>
        change ((check input).run files).files.fileAt? l = _
        rw [files_check]
      | generate input destination toOutput =>
        obtain ⟨given, _, _, wanted, _⟩ := read_generate reading
        have own := Given.ne_cancelled wanted
        change ((generate input destination toOutput).run files).files.fileAt? l = _
        cases toOutput with
        | true => rw [files_generate_printed own]
        | false =>
          have failure := otherwise verbose input destination reading
          rw [reading] at failure
          exact generate_file_of_failure own (fun success =>
            failure (exitStatus_eq_zero_iff.mpr success)) l

/-- The older editor of the lamp gives way. -/
theorem status_generate_lamp :
    ((Invocation.read ["generate", "-i", "lamp.toml"]).ending none lampFiles).status = 0 := by
  have place : Destination.path? (.directory ".") (Naming.sourceFile lamp.name) =
      some "./LampEditor.cs" := by decide +kernel
  have run := run_generate_accepted (.directory ".") false
    (described_eq_ok_iff.mpr describes_lamp) acceptable_lamp place
  have there : lampFiles.read "./LampEditor.cs" = .ok "old".toUTF8 := by decide +kernel
  have saved : ((save (sourceAt lamp "./LampEditor.cs")).run lampFiles).answer = .ok () :=
    (run_save_over there).1
  obtain ⟨printed, delivered⟩ := run_deliver_save (sourceAt lamp "./LampEditor.cs") lampFiles
  rw [read_generate_input (by decide) (by simp [looksLikeOption]), Invocation.ending, Job.ending,
    Job.script, run, delivered]
  dsimp only [Run.ending, Run.afterEvents]
  rw [saved, exitStatus]

theorem leavesFiles_lamp :
    (∃ given t text l, GivesToGenerate ["generate", "-i", "lamp.toml"] given ∧
      given.lookup .input = some "lamp.toml" ∧ Describes lampFiles "lamp.toml" t ∧
      Prints lampFiles "lamp.toml" text ∧
      lampFiles.WithFile
        ((Invocation.read ["generate", "-i", "lamp.toml"]).ending none lampFiles).files
        (given.sourcePath t.name) text.toUTF8 l) ∧
    ∀ l, ((Invocation.read ["check", "-i", "lamp.toml"]).ending none lampFiles).files.fileAt? l =
      lampFiles.fileAt? l := by
  have plain : looksLikeOption "lamp.toml" = false := by simp [looksLikeOption]
  have generates := read_generate_input (by decide) plain
  have checks := read_check_input (by decide) plain
  refine ⟨(leavesFiles none lampFiles _).written generates status_generate_lamp,
    (leavesFiles none lampFiles _).untouched fun verbose input destination other => ?_⟩
  rw [checks] at other
  cases other

end Inspector.Command
