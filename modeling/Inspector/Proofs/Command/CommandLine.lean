import Inspector.Command.Arguments
import Inspector.Proofs.Answers
import Inspector.Proofs.Naming.Derived

/-!
# What a command line says

Reading ends in two ways. It may stop at an argument that settles the matter, and then no
job is named (`Stops`); or it comes to the end, and then the job is made of the options
that were given. So a command line that names a job to generate gives an input, and it
never dismisses the destination (`read_generate`).
-/

namespace Inspector.Command

/-- An invocation that names no job. -/
def Invocation.Jobless (invocation : Invocation) : Prop :=
  ∀ verbose job, invocation ≠ .perform verbose job

/-- A reading that stops only at what names no job. -/
structure Stops {α : Type} (reading : Except Invocation α) : Prop where
  jobless : ∀ invocation, reading = .error invocation → invocation.Jobless

namespace Stops

variable {α β : Type}

theorem ok (a : α) : Stops (.ok a) := ⟨nofun⟩

theorem of_jobless {invocation : Invocation} (h : invocation.Jobless) :
    Stops (.error invocation : Except Invocation α) := by
  constructor
  rintro _ ⟨⟩
  exact h

theorem rejected : Stops (.error .rejected : Except Invocation α) := of_jobless nofun

theorem bind {reading : Except Invocation α} {next : α → Except Invocation β}
    (h : Stops reading) (rest : ∀ a, Stops (next a)) : Stops (reading >>= next) := by
  cases reading with
  | ok a => exact rest a
  | error stop => exact of_jobless (h.jobless stop rfl)

theorem map {reading : Except Invocation α} (h : Stops reading) (f : α → β) :
    Stops (reading.map f) := by
  cases reading with
  | ok a => exact ok (f a)
  | error stop => exact of_jobless (h.jobless stop rfl)

theorem take (given : Given) (flag : Flag) (value : String) : Stops (given.take flag value) := by
  unfold Given.take
  split
  · exact of_jobless nofun
  · exact of_jobless nofun
  · split
    · exact rejected
    · exact ok _

theorem readLetters (allowed : List Flag) (given : Given) (letters : List Char) :
    Stops (readLetters allowed given letters) := by
  induction letters generalizing given with
  | nil => exact ok _
  | cons c rest ih =>
    rw [Command.readLetters]
    split
    · exact rejected
    · split
      · split
        · exact ok _
        · exact (take ..).map _
        · exact (take ..).map _
      · exact (take ..).bind ih

theorem readOption (allowed : List Flag) (given : Given) (argument : String) :
    Stops (readOption allowed given argument) := by
  unfold Command.readOption
  split
  · unfold readLong
    split
    · exact rejected
    · split
      · exact (take ..).map _
      · exact ok _
      · exact (take ..).map _
      · exact rejected
  · exact readLetters ..
  · exact rejected

theorem readOptions (allowed : List Flag) (progress : Progress) (arguments : List String) :
    Stops (readOptions allowed progress arguments) := by
  induction arguments generalizing progress with
  | nil =>
    obtain ⟨given, _ | flag⟩ := progress
    · exact ok _
    · exact rejected
  | cons argument rest ih =>
    obtain ⟨given, _ | flag⟩ := progress <;> rw [Command.readOptions]
    · split
      · split
        · exact ok _
        · exact rejected
      · split
        · exact (readOption ..).bind ih
        · exact ok _
    · split
      · exact rejected
      · exact (take ..).bind fun _ => ih _

theorem jobOptions (allowed : List Flag) (arguments : List String) :
    Stops (jobOptions allowed arguments) := by
  refine (readOptions ..).bind fun reading => ?_
  split
  · exact ok _
  · exact rejected

end Stops

/-! ## Jobs to generate -/

/-- The options of a job to generate. -/
def generateFlags : List Flag := [.verbose, .help, .input, .output, .file, .toOutput]

/-- A command line that gives some options to a job to generate. -/
def GivesToGenerate (arguments : List String) (given : Given) : Prop :=
  ∃ before words,
    readOptions [.verbose, .version, .help] ([], none) arguments =
      .ok (before, "generate" :: words) ∧
    jobOptions generateFlags words = .ok given

theorem readGenerate_eq_ok {loud verbose : Bool} {words : List String} {job : Job}
    (h : readGenerate loud words = .ok (.perform verbose job)) :
    ∃ given input destination, jobOptions generateFlags words = .ok given ∧
      given.lookup .input = some input ∧ given.destination? = some destination ∧
      job = .generate input destination (given.has .toOutput) := by
  obtain ⟨given, options, h⟩ := bind_eq_ok_iff.mp h
  split at h
  next input destination asked place =>
    cases h
    exact ⟨given, input, destination, options, asked, place, rfl⟩
  · cases h

theorem readCheck_eq_ok {loud verbose : Bool} {words : List String} {job : Job}
    (h : readCheck loud words = .ok (.perform verbose job)) : ∃ input, job = .check input := by
  obtain ⟨given, options, h⟩ := bind_eq_ok_iff.mp h
  split at h
  · cases h
    exact ⟨_, rfl⟩
  · cases h

theorem readJob_eq_generate {loud verbose toOutput : Bool} {rest : List String} {input : String}
    {destination : Destination}
    (h : readJob loud rest = .ok (.perform verbose (.generate input destination toOutput))) :
    ∃ words given, rest = "generate" :: words ∧ jobOptions generateFlags words = .ok given ∧
      given.lookup .input = some input ∧ given.destination? = some destination ∧
      given.has .toOutput = toOutput := by
  unfold readJob at h
  split at h
  next words =>
    obtain ⟨given, _, _, options, asked, place, same⟩ := readGenerate_eq_ok h
    cases same
    exact ⟨words, given, rfl, options, asked, place, rfl⟩
  next =>
    obtain ⟨_, same⟩ := readCheck_eq_ok h
    cases same
  · cases h
  · cases h

theorem Stops.readHelp (words : List String) : (readHelp words).Jobless := by
  unfold Command.readHelp
  split
  · nofun
  · split <;> nofun
  · nofun

theorem Stops.readJob (loud : Bool) (rest : List String) : Stops (readJob loud rest) := by
  unfold Command.readJob
  split
  · refine (jobOptions ..).bind fun given => ?_
    split
    · exact ok _
    · exact rejected
  · refine (jobOptions ..).bind fun given => ?_
    split
    · exact ok _
    · exact rejected
  · exact of_jobless (readHelp _)
  · exact rejected

theorem read_eq_perform {arguments : List String} {verbose : Bool} {job : Job}
    (h : Invocation.read arguments = .perform verbose job) :
    ∃ before rest,
      readOptions [.verbose, .version, .help] ([], none) arguments = .ok (before, rest) ∧
      readJob (before.has .verbose) rest = .ok (.perform verbose job) := by
  rw [Invocation.read] at h
  split at h
  next invocation reading =>
    subst h
    obtain ⟨⟨before, rest⟩, options, named⟩ := bind_eq_ok_iff.mp reading
    exact ⟨before, rest, options, named⟩
  next invocation reading =>
    have stops := (Stops.readOptions [.verbose, .version, .help] ([], none) arguments).bind
      fun progress => Stops.readJob (progress.1.has .verbose) progress.2
    exact (stops.jobless invocation reading verbose job h).elim

/-- What a command line says when it names a job to generate. -/
theorem read_generate {arguments : List String} {verbose toOutput : Bool} {input : String}
    {destination : Destination}
    (h : Invocation.read arguments = .perform verbose (.generate input destination toOutput)) :
    ∃ given, GivesToGenerate arguments given ∧ given.lookup .input = some input ∧
      given.destination? = some destination ∧ given.has .toOutput = toOutput := by
  obtain ⟨before, rest, reading, named⟩ := read_eq_perform h
  obtain ⟨words, given, rfl, options, asked, place, printed⟩ := readJob_eq_generate named
  exact ⟨given, ⟨before, words, reading, options⟩, asked, place, printed⟩

/-- The path of the source of a target: the file that was given, or else the file that is
called after the target, in the directory that was given or else in the working
directory. -/
def Given.sourcePath (given : Given) (name : String) : String :=
  match given.lookup .file, given.lookup .output with
  | some path, _ => path
  | none, some directory => Files.join directory (name ++ "Editor.cs")
  | none, none => Files.join "." (name ++ "Editor.cs")

/-- The destination of a command line has a path. -/
theorem Given.path?_of_destination {given : Given} {destination : Destination} (name : String)
    (place : given.destination? = some destination) :
    destination.path? (Naming.sourceFile name) = some (given.sourcePath name) := by
  unfold Given.destination? at place
  rw [Given.sourcePath, ← Naming.sourceFile_eq]
  split at place <;> cases place <;> simp [*, Destination.path?]

theorem Given.ne_cancelled {given : Given} {destination : Destination}
    (place : given.destination? = some destination) : destination ≠ .cancelled := by
  rintro rfl
  have path := Given.path?_of_destination "" place
  cases path

/-! ## Plain command lines -/

theorem readOptions_word {allowed : List Flag} {word : String} (words : List String)
    (dashes : word ≠ "--") (plain : looksLikeOption word = false) :
    readOptions allowed ([], none) (word :: words) = .ok ([], word :: words) := by
  rw [readOptions, if_neg dashes, if_neg (by simp [plain])]

/-- A command line that starts with a word is read by that word. -/
theorem read_of_word {word : String} {words : List String} {invocation : Invocation}
    (dashes : word ≠ "--") (plain : looksLikeOption word = false)
    (named : readJob false (word :: words) = .ok invocation) :
    Invocation.read (word :: words) = invocation := by
  rw [Invocation.read, readOptions_word words dashes plain]
  split
  next other reading =>
    have same := named.symm.trans reading
    cases same
    rfl
  next other reading =>
    have same := named.symm.trans reading
    cases same

section Plain

variable {input : String} (given : input ≠ "") (plain : looksLikeOption input = false)
include given plain

/-- An input as the value of its option, before other words. -/
theorem readOptions_input {allowed : List Flag} {words : List String}
    (known : (allowed.find? fun flag => flag.short? == some 'i') = some .input) :
    readOptions allowed ([], none) ("-i" :: input :: words) =
      readOptions allowed ([(.input, input)], none) words := by
  have letters : readOption allowed [] "-i" = .ok ([], some .input) := by
    change readLetters allowed [] ['i'] = _
    rw [readLetters, known]
    rfl
  have taken : Given.take [] .input input = .ok [(.input, input)] := by
    simp [Given.take, Given.has, given]
  rw [readOptions, if_neg (by decide), if_pos (by simp [looksLikeOption]), letters]
  change readOptions allowed ([], some .input) (input :: words) = _
  rw [readOptions, if_neg (by simp [plain]), taken]
  rfl

theorem read_check_input :
    Invocation.read ["check", "-i", input] = .perform false (.check input) := by
  refine read_of_word (by decide) (by simp [looksLikeOption]) ?_
  rw [readJob, readCheck, jobOptions, readOptions_input given plain rfl]
  rfl

theorem read_generate_input : Invocation.read ["generate", "-i", input] =
    .perform false (.generate input (.directory ".") false) := by
  refine read_of_word (by decide) (by simp [looksLikeOption]) ?_
  rw [readJob, readGenerate, jobOptions, readOptions_input given plain rfl]
  rfl

theorem read_generate_toOutput : Invocation.read ["generate", "-i", input, "--stdout"] =
    .perform false (.generate input (.directory ".") true) := by
  refine read_of_word (by decide) (by simp [looksLikeOption]) ?_
  rw [readJob, readGenerate, jobOptions, readOptions_input given plain rfl]
  have printed : readOptions generateFlags ([(.input, input)], none) ["--stdout"] =
      .ok ([(.input, input), (.toOutput, "")], []) := by
    rw [readOptions, if_neg (by decide), if_pos (by simp [looksLikeOption])]
    rfl
  rw [← generateFlags, printed]
  rfl

end Plain

end Inspector.Command
