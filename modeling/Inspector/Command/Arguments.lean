import Inspector.Command.Job

/-!
# Arguments

How the words on a command line become an invocation. They are read from the
left, and what settles the matter first wins: an argument that is not understood,
or a request for help or for the version.

Options stand before and after the name of the job. Short ones may be joined, and
the last of them may have its value attached, with or without an equals sign. A
value that stands by itself must not look like an option. No option is given
twice in the same place, and no value is empty.
-/

namespace Inspector.Command

/-- An option. -/
inductive Flag where
  | verbose
  | version
  | help
  | input
  | output
  | file
  | toOutput
deriving DecidableEq

namespace Flag

/-- The long name of an option. -/
def long : Flag → String
  | verbose => "verbose"
  | version => "version"
  | help => "help"
  | input => "input"
  | output => "output"
  | file => "file"
  | toOutput => "stdout"

/-- The letter of an option. -/
def short? : Flag → Option Char
  | verbose => some 'v'
  | version => some 'V'
  | help => some 'h'
  | input => some 'i'
  | output => some 'o'
  | file => none
  | toOutput => none

/-- Whether an option needs a value. -/
def takesValue : Flag → Bool
  | input => true
  | output => true
  | file => true
  | _ => false

end Flag

/-- What the words on a command line ask for. -/
inductive Invocation where
  /-- They are not understood. -/
  | rejected
  | help
  | version
  | perform (verbose : Bool) (job : Job)

/-- The options that were given, and their values. -/
abbrev Given := List (Flag × String)

namespace Given

/-- Whether an option was given. -/
def has (given : Given) (flag : Flag) : Bool :=
  (given.lookup flag).isSome

/-- Takes in an option. -/
def take (given : Given) (flag : Flag) (value : String) : Except Invocation Given :=
  match flag with
  | .help => .error .help
  | .version => .error .version
  | flag =>
    if given.has flag || (flag.takesValue && value = "") then .error .rejected
    else .ok (given ++ [(flag, value)])

end Given

/-- What is known in the middle of a command line: the options so far, and the
option that waits for its value. -/
abbrev Progress := Given × Option Flag

/-- Whether an argument looks like an option. -/
def looksLikeOption (argument : String) : Bool :=
  argument.startsWith "-" && argument != "-"

/-- Reads joined letters. -/
def readLetters (allowed : List Flag) (given : Given) :
    List Char → Except Invocation Progress
  | [] => .ok (given, none)
  | c :: rest =>
    match allowed.find? fun flag => flag.short? == some c with
    | none => .error .rejected
    | some flag =>
      if flag.takesValue then
        match rest with
        | [] => .ok (given, some flag)
        | '=' :: value => (given.take flag (String.ofList value)).map (·, none)
        | value => (given.take flag (String.ofList value)).map (·, none)
      else do readLetters allowed (← given.take flag "") rest

/-- Reads a long name, and the value that is attached to it. -/
def readLong (allowed : List Flag) (given : Given) (name : String) (value : Option String) :
    Except Invocation Progress :=
  match allowed.find? fun flag => flag.long == name with
  | none => .error .rejected
  | some flag =>
    match flag.takesValue, value with
    | true, some value => (given.take flag value).map (·, none)
    | true, none => .ok (given, some flag)
    | false, none => (given.take flag "").map (·, none)
    | false, some _ => .error .rejected

/-- The text before the first equals sign, and the text after it. -/
def splitAssignment (text : List Char) : String × Option String :=
  match text.dropWhile (· != '=') with
  | [] => (String.ofList text, none)
  | _ :: value => (String.ofList (text.takeWhile (· != '=')), some (String.ofList value))

/-- Reads one argument that looks like an option. -/
def readOption (allowed : List Flag) (given : Given) (argument : String) :
    Except Invocation Progress :=
  match argument.toList with
  | '-' :: '-' :: text => readLong allowed given (splitAssignment text).1 (splitAssignment text).2
  | '-' :: letters => readLetters allowed given letters
  | _ => .error .rejected

/-- Reads options up to the first word that is none. Two dashes end the options,
and nothing may follow them. -/
def readOptions (allowed : List Flag) :
    Progress → List String → Except Invocation (Given × List String)
  | (given, none), [] => .ok (given, [])
  | (_, some _), [] => .error .rejected
  | (given, some flag), argument :: rest =>
    if looksLikeOption argument then .error .rejected
    else do readOptions allowed (← given.take flag argument, none) rest
  | (given, none), argument :: rest =>
    if argument = "--" then
      if rest = [] then .ok (given, []) else .error .rejected
    else if looksLikeOption argument then do
      readOptions allowed (← readOption allowed given argument) rest
    else .ok (given, argument :: rest)

/-- The destination that options ask for: a file, or a directory, and without
either the working directory. -/
def Given.destination? (given : Given) : Option Destination :=
  match given.lookup .file, given.lookup .output with
  | some _, some _ => none
  | some path, none => some (.file path)
  | none, some path => some (.directory path)
  | none, none => some (.directory ".")

/-- The options of a job, when nothing else is given. -/
def jobOptions (allowed : List Flag) (arguments : List String) : Except Invocation Given := do
  match ← readOptions allowed ([], none) arguments with
  | (given, []) => return given
  | (_, _ :: _) => .error .rejected

/-- The invocation that names a job to generate. -/
def readGenerate (verbose : Bool) (arguments : List String) : Except Invocation Invocation := do
  let given ← jobOptions [.verbose, .help, .input, .output, .file, .toOutput] arguments
  match given.lookup .input, given.destination? with
  | some input, some destination =>
    return .perform (verbose || given.has .verbose)
      (.generate input destination (given.has .toOutput))
  | _, _ => .error .rejected

/-- The invocation that names a job to check. -/
def readCheck (verbose : Bool) (arguments : List String) : Except Invocation Invocation := do
  let given ← jobOptions [.verbose, .help, .input] arguments
  match given.lookup .input with
  | some input => return .perform (verbose || given.has .verbose) (.check input)
  | none => .error .rejected

/-- The names of what help can be had on. -/
def topics : List String := ["generate", "check", "help"]

/-- The invocation that asks for help in words. -/
def readHelp : List String → Invocation
  | [] => .help
  | [topic] => if topics.contains topic then .help else .rejected
  | _ => .rejected

/-- The invocation of a word and what follows it. -/
def readJob (verbose : Bool) : List String → Except Invocation Invocation
  | "generate" :: arguments => readGenerate verbose arguments
  | "check" :: arguments => readCheck verbose arguments
  | "help" :: arguments => .error (readHelp arguments)
  | _ => .error .rejected

namespace Invocation

/-- Reads a command line. -/
def read (arguments : List String) : Invocation :=
  let reading : Except Invocation Invocation := do
    let (given, rest) ← readOptions [.verbose, .version, .help] ([], none) arguments
    readJob (given.has .verbose) rest
  match reading with
  | .ok invocation => invocation
  | .error invocation => invocation

end Invocation

end Inspector.Command
