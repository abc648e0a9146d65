import Inspector.Proofs.Command.Records
import Inspector.Proofs.Command.Verbosity
import Inspector.Proofs.Diagnostics.Hosts

/-!
# Whoever listens

A person may want to see more of a job or less of it: by the option `-v`, and by the text of a
filter. A host may set the level of its channel. Nothing but the log depends on that.

A job may be followed while it runs: every event that passes the threshold of the console is
shown at once and goes to the channel, where the listener may do to the channel what it likes,
before the job goes on. By induction on the script this changes neither what the job finds and
does among the files, nor what it prints, nor its answer (`Script.follow_eq`).

What a person is told is a list of records, and a record tells by its start whether it belongs
to the log, and at which level, or is a complaint (`logLevel?_consoleLine`,
`Run.complaints_ending`).

**The law** (`logging_harmless`): for the same job on the same files, whatever the verbosity
and the filter, the output, the status, the complaint and the files are the same; and the log
behind the higher threshold is what passes it of the log behind the lower one. An operation
of a request comes to the same before every host, and what is heard behind a threshold is
what passes it of all that is heard.
-/

namespace Inspector.Command

open Diagnostics Files

/-! ## Following a job -/

/-- Who follows a job: the events that were shown, and the channel with the calls of its
listener. -/
structure Follower where
  shown : List Event
  channel : Channel
  calls : List Diagnostics.Call

namespace Follower

/-- Takes note of an event, if it passes the threshold of the console. -/
def see (console : Level) (f : Follower) (e : Event) : Follower :=
  if console.passes e.level then
    ⟨f.shown ++ [e], (f.channel.emit e).1, f.calls ++ (f.channel.emit e).2⟩
  else f

theorem foldl_see (console : Level) (f : Follower) (events : List Event) :
    events.foldl (see console) f = ⟨f.shown ++ heardAt console events,
      (f.channel.emitAll (heardAt console events)).1,
      f.calls ++ (f.channel.emitAll (heardAt console events)).2⟩ := by
  induction events generalizing f with
  | nil => simp [heardAt, Channel.emitAll]
  | cons e rest ih =>
    rw [List.foldl_cons, ih]
    cases passes : console.passes e.level <;> simp [see, heardAt, passes, Channel.emitAll]

end Follower

/-- What a script comes to before a follower. -/
structure Followed (α : Type) where
  files : FileTree
  printed : String
  answer : Except Complaint α
  follower : Follower

/-- Runs a script on a file tree before a follower. -/
def Script.follow {α : Type} (console : Level) : Script α → FileTree → Follower → Followed α
  | done a, t, f => ⟨t, "", .ok a, f⟩
  | giveUp complaint, t, f => ⟨t, "", .error complaint, f⟩
  | print text rest, t, f =>
    let r := rest.follow console t f
    { r with printed := text ++ r.printed }
  | report events rest, t, f => rest.follow console t (events.foldl (Follower.see console) f)
  | read path next, t, f => (next (t.read path)).follow console t f
  | ask question next, t, f => (next (t.ask question)).follow console t f
  | change c next, t, f =>
    match t.change c with
    | .ok after => (next (.ok ())).follow console after f
    | .error fault => (next (.error fault)).follow console t f

/-- A script comes to the same before every follower, and every follower sees the same. -/
theorem Script.follow_eq {α : Type} (console : Level) (s : Script α) (t : FileTree)
    (f : Follower) : s.follow console t f = ⟨(s.run t).files, (s.run t).printed, (s.run t).answer,
      (s.run t).events.foldl (Follower.see console) f⟩ := by
  induction s generalizing t f with
  | done a => rfl
  | giveUp complaint => rfl
  | print text rest ih =>
    rw [follow, run, ih]
    rfl
  | report events rest ih =>
    rw [follow, run, ih]
    simp only [Run.afterEvents, List.foldl_append]
  | read path next ih => exact ih _ t f
  | ask question next ih => exact ih _ t f
  | change c next ih =>
    rw [follow, run]
    cases t.change c with
    | ok after => exact ih _ after f
    | error fault => exact ih _ t f

/-- The ending of a job that was followed: the warnings are those that the listener heard. -/
def Followed.ending (r : Followed Unit) : Ending where
  status := exitStatus r.answer
  output := r.printed
  records :=
    let count := r.follower.calls.countP fun call =>
      Level.warn.severity ≤ call.message.level.severity
    r.follower.shown.map (·.consoleLine) ++ closingLines count r.answer
  files := r.files

/-- A job ends as it does when an audience follows it from the start. -/
theorem Job.ending_eq_follow (audience : Audience) (job : Job) (files : FileTree) :
    job.ending audience files =
      (job.script.follow audience.console files ⟨[], .listening audience.channel, []⟩).ending := by
  rw [Script.follow_eq, Follower.foldl_see, List.nil_append, List.nil_append]
  rfl

/-! ## Records -/

/-- The level of a record of the log. -/
def logLevel? (record : String) : Option Level :=
  Level.all.find? fun level => level.name.toList.isPrefixOf record.toList

/-- Whether a record is a complaint. -/
def isComplaint (record : String) : Bool :=
  "error: ".toList.isPrefixOf record.toList

namespace Ending

/-- The records of the log. -/
def logged (ending : Ending) : List String :=
  ending.records.filter fun record => (logLevel? record).isSome

/-- The complaints. -/
def complaints (ending : Ending) : List String :=
  ending.records.filter isComplaint

end Ending

theorem logLevel?_consoleLine (e : Event) : logLevel? e.consoleLine = some e.level := by
  obtain ⟨rest, same⟩ := name_prefix_consoleLine e
  rw [logLevel?, ← same]
  cases e.level <;> rfl

theorem isComplaint_consoleLine (e : Event) : isComplaint e.consoleLine = false := by
  obtain ⟨rest, same⟩ := name_prefix_consoleLine e
  rw [isComplaint, ← same]
  cases e.level <;> rfl

/-- A record that starts in another way is none of the log. -/
theorem logLevel?_eq_none {record : String}
    (other : ∀ level : Level, record.toList.head? ≠ level.name.toList.head?) :
    logLevel? record = none := by
  refine List.find?_eq_none.mpr fun level _ starts => other level ?_
  obtain ⟨rest, same⟩ := List.isPrefixOf_iff_prefix.mp starts
  rw [← same]
  cases level <;> rfl

theorem isComplaint_eq_false {record : String} (other : record.toList.head? ≠ some 'e') :
    isComplaint record = false := by
  refine Bool.eq_false_iff.mpr fun starts => other ?_
  obtain ⟨rest, same⟩ := List.isPrefixOf_iff_prefix.mp starts
  rw [← same]
  rfl

theorem logLevel?_countLine (n : Nat) : logLevel? (countLine n) = none := by
  refine logLevel?_eq_none fun level start => ?_
  cases level <;> cases isDigit_of_head_countLine start

theorem isComplaint_countLine (n : Nat) : isComplaint (countLine n) = false :=
  isComplaint_eq_false fun start => by cases isDigit_of_head_countLine start

theorem logLevel?_complaintLine (complaint : Complaint) :
    logLevel? (complaintLine complaint) = none := by
  have start : (complaintLine complaint).toList.head? = some 'e' := by
    rw [complaintLine, String.toList_append]
    rfl
  refine logLevel?_eq_none fun level => ?_
  rw [start]
  cases level <;> decide

theorem isComplaint_complaintLine (complaint : Complaint) :
    isComplaint (complaintLine complaint) := by
  rw [isComplaint, complaintLine, String.toList_append]
  rfl

theorem isComplaint_complaintsOf (answer : Except Complaint Unit) :
    ∀ record ∈ complaintsOf answer, isComplaint record := by
  cases answer with
  | ok => exact List.forall_mem_nil _
  | error complaint => exact List.forall_mem_singleton.mpr (isComplaint_complaintLine complaint)

/-- Nothing that ends a job belongs to the log. -/
theorem logLevel?_closingLines (count : Nat) (answer : Except Complaint Unit) :
    ∀ record ∈ closingLines count answer, logLevel? record = none := by
  rw [closingLines_eq]
  refine List.forall_mem_append.mpr ⟨?_, ?_⟩
  · split
    · exact List.forall_mem_nil _
    · exact List.forall_mem_singleton.mpr (logLevel?_countLine count)
  · cases answer with
    | ok => exact List.forall_mem_nil _
    | error complaint => exact List.forall_mem_singleton.mpr (logLevel?_complaintLine complaint)

theorem filter_isComplaint_closingLines (count : Nat) (answer : Except Complaint Unit) :
    (closingLines count answer).filter isComplaint = complaintsOf answer := by
  have none : (if count = 0 then [] else [countLine count]).filter isComplaint = [] := by
    split
    · rfl
    · exact List.filter_cons_of_neg (by simp [isComplaint_countLine])
  rw [closingLines_eq, List.filter_append, none, List.nil_append]
  exact List.filter_eq_self.mpr (isComplaint_complaintsOf answer)

/-- What passes a threshold can be told by the records. -/
theorem filter_logLevel? (threshold : Level) (events : List Event) :
    (events.map (·.consoleLine)).filter (fun record => (logLevel? record).any threshold.passes) =
      (heardAt threshold events).map (·.consoleLine) := by
  rw [List.filter_map, heardAt]
  refine congrArg _ (List.filter_congr fun e _ => ?_)
  rw [Function.comp_apply, logLevel?_consoleLine, Option.any_some]

namespace Run

variable (audience : Audience) (r : Run Unit)

/-- The log is what the console shows. -/
theorem logged_ending : (r.ending audience).logged =
    (heardAt audience.console r.events).map (·.consoleLine) := by
  have shown : ∀ record ∈ (heardAt audience.console r.events).map (·.consoleLine),
      (logLevel? record).isSome := by
    intro record mem
    obtain ⟨e, _, rfl⟩ := List.mem_map.mp mem
    rw [logLevel?_consoleLine]
    rfl
  have closing (count : Nat) : (closingLines count r.answer).filter
      (fun record => (logLevel? record).isSome) = [] := by
    refine List.filter_eq_nil_iff.mpr fun record mem => ?_
    simp [logLevel?_closingLines count r.answer record mem]
  rw [Ending.logged, ending, List.filter_append, List.filter_eq_self.mpr shown, closing,
    List.append_nil]

theorem complaints_ending : (r.ending audience).complaints = complaintsOf r.answer := by
  have shown :
      ((heardAt audience.console r.events).map (·.consoleLine)).filter isComplaint = [] := by
    refine List.filter_eq_nil_iff.mpr fun record mem => ?_
    obtain ⟨e, _, rfl⟩ := List.mem_map.mp mem
    simp [isComplaint_consoleLine]
  rw [Ending.complaints, ending, List.filter_append, shown, List.nil_append,
    filter_isComplaint_closingLines]

end Run

/-! ## The law -/

/-- The threshold of an invocation; one without a job has nothing to log. -/
def Invocation.threshold (filter : Option String) : Invocation → Level
  | perform verbose _ => Command.threshold filter verbose
  | _ => .off

/-- The endings of two invocations that may be told apart by their logs only. -/
structure Ending.SameResult (ending other : Ending) : Prop where
  output : ending.output = other.output
  status : ending.status = other.status
  complaints : ending.complaints = other.complaints
  files : ending.files = other.files

/-- Two invocations that differ in nothing but the option to be verbose end in the same way,
and the log behind the higher threshold is what passes it of the other log. -/
structure Invocation.DiffersInLog (invocation other : Invocation) (filter filter' : Option String)
    (files : FileTree) : Prop where
  result : (invocation.ending filter files).SameResult (other.ending filter' files)
  logged : (other.threshold filter').severity ≤ (invocation.threshold filter).severity →
    (invocation.ending filter files).logged =
      (other.ending filter' files).logged.filter fun record =>
        (logLevel? record).any (invocation.threshold filter).passes

theorem Job.differsInLog (job : Job) (verbose verbose' : Bool) (filter filter' : Option String)
    (files : FileTree) :
    (Invocation.perform verbose job).DiffersInLog (.perform verbose' job) filter filter' files where
  result :=
    { output := rfl
      status := rfl
      complaints := by
        change (Run.ending _ _).complaints = (Run.ending _ _).complaints
        rw [Run.complaints_ending, Run.complaints_ending]
      files := rfl }
  logged := by
    intro le
    change (Run.ending _ _).logged = (Run.ending _ _).logged.filter _
    rw [Run.logged_ending, Run.logged_ending, filter_logLevel?]
    exact congrArg _ (heardAt_heardAt le _).symm

theorem logLevel?_usageText : logLevel? usageText = none := by
  refine logLevel?_eq_none fun level => ?_
  rw [head_usageText]
  cases level <;> decide

/-- An invocation without a job has no log. -/
theorem Invocation.Jobless.logged_ending {invocation : Invocation} (h : invocation.Jobless)
    (filter : Option String) (files : FileTree) :
    (invocation.ending filter files).logged = [] := by
  cases invocation with
  | help | version => rfl
  | rejected => exact List.filter_cons_of_neg (by simp [logLevel?_usageText])
  | perform verbose job => exact (h verbose job rfl).elim

theorem Invocation.Jobless.differsInLog {invocation : Invocation} (h : invocation.Jobless)
    (filter filter' : Option String) (files : FileTree) :
    invocation.DiffersInLog invocation filter filter' files where
  result := by
    cases invocation with
    | help | version | rejected => exact ⟨rfl, rfl, rfl, rfl⟩
    | perform verbose job => exact (h verbose job rfl).elim
  logged := by
    intro _
    rw [h.logged_ending, h.logged_ending, List.filter_nil]

theorem Invocation.differsInLog {invocation other : Invocation}
    (same : invocation.loud = other.loud) (filter filter' : Option String) (files : FileTree) :
    invocation.DiffersInLog other filter filter' files := by
  cases invocation with
  | perform verbose job =>
    cases other with
    | perform verbose' job' =>
      cases same
      exact job.differsInLog ..
    | rejected | help | version => cases same
  | rejected | help | version =>
    have jobless : other.Jobless := by
      rintro verbose job rfl
      cases same
    cases same.trans jobless.loud_eq
    exact jobless.differsInLog ..

/-- What a job comes to before those who follow it. -/
structure Job.Unmoved (job : Job) (files : FileTree) : Prop where
  /-- Whoever follows it, the job leaves the same files and prints and answers the same. -/
  result : ∀ (console : Level) (channel : Channel),
    let followed := job.script.follow console files ⟨[], channel, []⟩
    followed.files = (job.script.run files).files ∧
      followed.printed = (job.script.run files).printed ∧
      followed.answer = (job.script.run files).answer
  /-- An audience that follows it sees the ending of the job. -/
  ending : ∀ audience : Audience, job.ending audience files =
    (job.script.follow audience.console files ⟨[], .listening audience.channel, []⟩).ending

theorem Job.unmoved (job : Job) (files : FileTree) : job.Unmoved files where
  result := by
    intro console channel
    rw [Script.follow_eq]
    exact ⟨rfl, rfl, rfl⟩
  ending audience := job.ending_eq_follow audience files

/-- Logging influences no result: neither those of the command, with `-v` or without it and
with any filter, nor those of the operations that a host may call. -/
theorem logging_harmless :
    (∀ arguments : List String,
      Invocation.read ("-v" :: arguments) = (Invocation.read arguments).loud ∨
        Invocation.read ("-v" :: arguments) = .rejected ∧
          ∀ job, Invocation.read arguments ≠ .perform false job) ∧
    (∀ (arguments others : List String) (filter filter' : Option String) (files : FileTree),
      (Invocation.read arguments).loud = (Invocation.read others).loud →
        (Invocation.read arguments).DiffersInLog (Invocation.read others) filter filter' files) ∧
    (∀ (job : Job) (files : FileTree), job.Unmoved files) ∧
    ∀ {α : Type} (sink : Sink) (s : Step α) (g : Generation), s.Unmoved sink g := by
  refine ⟨read_verbose, fun arguments others filter filter' files same => ?_, Job.unmoved,
    Step.unmoved⟩
  exact Invocation.differsInLog same filter filter' files

theorem logging_harmless_lamp :
    let quiet := Invocation.read ["check", "-i", "lamp.toml"]
    let noisy := Invocation.read ["-v", "check", "-i", "lamp.toml"]
    quiet.loud = noisy.loud ∧ (noisy.threshold none).severity ≤ (quiet.threshold none).severity ∧
      quiet.DiffersInLog noisy none none (.ofFiles ["home"] []) := by
  intro quiet noisy
  obtain ⟨verbosely, alike, _⟩ := logging_harmless
  have plain : looksLikeOption "lamp.toml" = false := by simp [looksLikeOption]
  have performs : quiet = .perform false (.check "lamp.toml") :=
    read_check_input (by decide) plain
  have louder : noisy = quiet.loud := by
    obtain same | ⟨_, other⟩ := verbosely ["check", "-i", "lamp.toml"]
    · exact same
    · exact (other _ performs).elim
  have same : quiet.loud = noisy.loud := by
    rw [louder, performs]
    rfl
  refine ⟨same, ?_, alike _ _ none none _ same⟩
  rw [louder, performs]
  decide

end Inspector.Command
