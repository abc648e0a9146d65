import Inspector.Proofs.Command.CommandLine

/-!
# The option to be verbose

What `-v` does to a command line. Everything that reads options is given those so far, and
asks of them only whether one of them is there already. So with `-v` in front of the options
so far it reads the same words in the same way, and hands them on with `-v` still in front
(`Reads`); only where it meets the option once more does it stop.

So `-v` in front of a command line leaves the job as it is and makes it verbose
(`read_verbose`). Unless it is there already: given twice, it makes the command line one that
is not understood.
-/

namespace Inspector.Command

/-- The invocation, if it performs a job, as a verbose one. -/
def Invocation.loud : Invocation → Invocation
  | perform _ job => perform true job
  | invocation => invocation

theorem Invocation.Jobless.loud_eq {invocation : Invocation} (h : invocation.Jobless) :
    invocation.loud = invocation := by
  cases invocation with
  | rejected | help | version => rfl
  | perform verbose job => exact (h verbose job rfl).elim

/-! ## Options with `-v` in front -/

/-- The options with `-v` in front of them. -/
def Given.louder (given : Given) : Given := (.verbose, "") :: given

/-- Two readings of the same words, the second one with `-v` in front. It ends as the first
one does, unless the first one has met the option already. -/
inductive Louder {γ : Type} : Except Invocation (Given × γ) → Except Invocation (Given × γ) → Prop
  | given (given : Given) (rest : γ) : Louder (.ok (given, rest)) (.ok (given.louder, rest))
  | stopped (invocation : Invocation) : Louder (.error invocation) (.error invocation)
  | again {reading : Except Invocation (Given × γ)}
    (twice : ∀ given rest, reading = .ok (given, rest) → given.has .verbose) :
    Louder reading (.error .rejected)

/-- Something that reads options. -/
structure Reads {γ : Type} (read : Given → Except Invocation (Given × γ)) : Prop where
  keeps : ∀ {given after : Given} {rest : γ}, read given = .ok (after, rest) →
    given.has .verbose → after.has .verbose
  louder : ∀ given, Louder (read given) (read given.louder)

namespace Reads

variable {γ δ : Type}

theorem ok (rest : γ) : Reads fun given => .ok (given, rest) where
  keeps := by
    rintro given _ _ ⟨⟩ has
    exact has
  louder given := .given given rest

theorem stop (invocation : Invocation) :
    Reads (fun _ => .error invocation : Given → Except Invocation (Given × γ)) where
  keeps := nofun
  louder _ := .stopped invocation

theorem bind {read : Given → Except Invocation (Given × γ)}
    {next : γ → Given → Except Invocation (Given × δ)} (h : Reads read)
    (rest : ∀ x, Reads (next x)) : Reads fun given => read given >>= fun p => next p.2 p.1 where
  keeps := by
    intro given after y reading has
    obtain ⟨⟨between, x⟩, first, second⟩ := bind_eq_ok_iff.mp reading
    exact (rest x).keeps second (h.keeps first has)
  louder given := by
    have first := h.louder given
    generalize read given = quiet, read given.louder = loud at first ⊢
    cases first with
    | given between x => exact (rest x).louder between
    | stopped invocation => exact .stopped invocation
    | again twice =>
      refine .again fun after y reading => ?_
      obtain ⟨⟨between, x⟩, first, second⟩ := bind_eq_ok_iff.mp reading
      exact (rest x).keeps second (twice between x first)

theorem has_append (given more : Given) (flag : Flag) :
    Given.has (given ++ more) flag = (given.has flag || Given.has more flag) := by
  rw [Given.has, List.lookup_append]
  cases found : given.lookup flag <;> simp [Given.has, found]

theorem take (flag : Flag) (value : String) (rest : γ) :
    Reads fun given => (given.take flag value).map (·, rest) where
  keeps := by
    intro given after x reading has
    obtain ⟨taken, took, same⟩ := map_eq_ok_iff.mp reading
    cases same
    unfold Given.take at took
    split at took
    · cases took
    · cases took
    · split at took <;> cases took
      rw [has_append, has, Bool.true_or]
  louder given := by
    have same (other : flag ≠ .verbose) : given.louder.has flag = given.has flag := by
      rw [Given.louder, Given.has, List.lookup_cons, beq_false_of_ne other]
      rfl
    unfold Given.take
    cases flag with
    | help => exact .stopped _
    | version => exact .stopped _
    | verbose =>
      refine .again fun after x reading => ?_
      dsimp only at reading
      split at reading <;> cases reading
      simp [Given.has]
    | input | output | file | toOutput =>
      dsimp only
      rw [same (by decide)]
      split
      · exact .stopped _
      · exact .given _ _

/-- An option is taken before what is read next. -/
theorem take_bind (flag : Flag) (value : String) {next : Given → Except Invocation (Given × γ)}
    (h : Reads next) : Reads fun given => given.take flag value >>= next := by
  have both : (fun given => given.take flag value >>= next) = fun given : Given =>
      (given.take flag value).map (·, ()) >>= fun p => next p.1 := by
    funext given
    cases given.take flag value <;> rfl
  rw [both]
  exact (take flag value ()).bind fun _ => h

/-! ## Everything that reads options -/

theorem readLetters (allowed : List Flag) (letters : List Char) :
    Reads fun given => readLetters allowed given letters := by
  induction letters with
  | nil => exact ok none
  | cons c rest ih =>
    unfold Command.readLetters
    split
    · exact stop .rejected
    · split
      · split
        · exact ok _
        · exact take _ _ none
        · exact take _ _ none
      · exact take_bind _ _ ih

theorem readOption (allowed : List Flag) (argument : String) :
    Reads fun given => readOption allowed given argument := by
  unfold Command.readOption
  split
  · unfold readLong
    split
    · exact stop .rejected
    · split
      · exact take _ _ none
      · exact ok _
      · exact take _ _ none
      · exact stop .rejected
  · exact readLetters allowed _
  · exact stop .rejected

theorem readOptions (allowed : List Flag) (waiting : Option Flag) (arguments : List String) :
    Reads fun given => readOptions allowed (given, waiting) arguments := by
  induction arguments generalizing waiting with
  | nil =>
    cases waiting with
    | none => exact ok []
    | some flag => exact stop .rejected
  | cons argument rest ih =>
    cases waiting with
    | none =>
      unfold Command.readOptions
      split
      · split
        · exact ok []
        · exact stop .rejected
      · split
        · exact (readOption allowed argument).bind ih
        · exact ok _
    | some flag =>
      unfold Command.readOptions
      split
      · exact stop .rejected
      · exact take_bind _ _ (ih none)

end Reads

/-! ## Verbose command lines -/

/-- What reading comes to: an invocation in any case. -/
def conclusion (reading : Except Invocation Invocation) : Invocation :=
  match reading with
  | .ok invocation => invocation
  | .error invocation => invocation

/-- A job that is named after `-v` is verbose. -/
theorem readJob_true (verbose : Bool) (rest : List String) :
    readJob true rest = (readJob verbose rest).map Invocation.loud := by
  unfold readJob
  split
  · rw [readGenerate, readGenerate]
    cases jobOptions [.verbose, .help, .input, .output, .file, .toOutput] _ with
    | error => rfl
    | ok given =>
      simp only [bind, Except.bind]
      split <;> rfl
  · rw [readCheck, readCheck]
    cases jobOptions [.verbose, .help, .input] _ with
    | error => rfl
    | ok given =>
      simp only [bind, Except.bind]
      split <;> rfl
  · rfl
  · rfl

theorem conclusion_readJob_true (verbose : Bool) (rest : List String) :
    conclusion (readJob true rest) = (conclusion (readJob verbose rest)).loud := by
  rw [readJob_true verbose]
  have stops := Stops.readJob verbose rest
  cases named : readJob verbose rest with
  | ok invocation => rfl
  | error invocation => exact (stops.jobless invocation named).loud_eq.symm

/-- The options that may stand before the name of a job. -/
def leadingFlags : List Flag := [.verbose, .version, .help]

theorem read_eq (arguments : List String) : Invocation.read arguments =
    conclusion (readOptions leadingFlags ([], none) arguments >>= fun p =>
      readJob (p.1.has .verbose) p.2) := rfl

theorem readOptions_verbose (arguments : List String) :
    readOptions leadingFlags ([], none) ("-v" :: arguments) =
      readOptions leadingFlags (Given.louder [], none) arguments := by
  rw [readOptions, if_neg (by decide), if_pos (by simp [looksLikeOption])]
  rfl

/-- With `-v` in front a command line names the same job, and the job is verbose; unless it
was verbose before. -/
theorem read_verbose (arguments : List String) :
    Invocation.read ("-v" :: arguments) = (Invocation.read arguments).loud ∨
      Invocation.read ("-v" :: arguments) = .rejected ∧
        ∀ job, Invocation.read arguments ≠ .perform false job := by
  rw [read_eq, read_eq, readOptions_verbose]
  have stops := Stops.readOptions leadingFlags ([], none) arguments
  have louder := (Reads.readOptions leadingFlags none arguments).louder []
  generalize readOptions leadingFlags ([], none) arguments = quiet,
    readOptions leadingFlags (Given.louder [], none) arguments = loud at stops louder ⊢
  cases louder with
  | given given rest => exact .inl (conclusion_readJob_true _ rest)
  | stopped invocation => exact .inl (stops.jobless invocation rfl).loud_eq.symm
  | again twice =>
    refine .inr ⟨rfl, fun job quietly => ?_⟩
    cases quiet with
    | error invocation => exact stops.jobless invocation rfl false job quietly
    | ok progress =>
      obtain ⟨given, rest⟩ := progress
      -- the job was verbose before, and so it stays as it is
      have same := conclusion_readJob_true true rest
      change conclusion (readJob (given.has .verbose) rest) = _ at quietly
      rw [twice given rest rfl] at quietly
      rw [quietly] at same
      cases same

end Inspector.Command
