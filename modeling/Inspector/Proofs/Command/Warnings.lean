import Inspector.Proofs.Command.CommandLine
import Inspector.Proofs.Command.Records
import Inspector.Proofs.Command.Told
import Inspector.Proofs.Diagnostics.Delivery

/-!
# The count of warnings

A person sees the warnings of a job and, after them, how many there were. The two come by
different ways: the events are what passes a threshold, and the count is kept by a listener at
a channel that has a level of its own and is asked only for what was shown.

**The law** (`Invocation.countsWarnings`): the count is of the warnings that were shown,
whatever the threshold is and whether the channel is verbose or not, and there is a record of
it exactly if there is one to tell. Where the threshold passes warnings, the count is due to
the description file alone (`WarningsDue`): one for a target that is refused, and for a target
that is generated one for each annotation that is not supported.

Two facts carry it. The channel passes warnings at either of its levels, so that nothing that
was shown is kept from the listener; and nothing that a job tells is graver than a warning, so
that the listener counts nothing else.

**What it does not say.** A record is not a line. Events and complaints quote names as they
are, ends of lines included, and what a name has behind one of them stands on the standard
error as a line of its own. It may read like a count (`uncounted_line_crate`). Nothing else
does: a line with a count is the record of the count, or is quoted.
-/

namespace Inspector.Command

open Diagnostics Files

/-! ## Nothing is graver than a warning -/

/-- An event that is a warning or below one. -/
def Moderate (e : Event) : Prop :=
  e.level.severity ≤ Level.warn.severity

theorem Moderate.of_routine {e : Event} (h : e.Routine) : Moderate e :=
  Nat.le_of_lt h.mild

theorem Moderate.of_routine_reports {reports : List Report} (h : Routine reports) (sink : Sink) :
    ∀ e ∈ Report.events sink reports, Moderate e := by
  intro e mem
  obtain ⟨report, there, own⟩ := List.mem_filterMap.mp mem
  cases report with
  | event e' =>
    cases own
    exact .of_routine (h e there)
  | notice n =>
    cases sink <;> cases own
    exact Nat.le_refl Level.warn.severity

theorem Moderate.refusedReports (refusal : Refusal) (sink : Sink) :
    ∀ e ∈ Report.events sink (Generation.refusedReports refusal), Moderate e := by
  have events : Report.events sink (Generation.refusedReports refusal) =
      [Generation.phaseEvent .idle .validating, Generation.refusalEvent refusal,
        Generation.phaseEvent .validating .failed] := rfl
  have phase (old new : Phase) : Moderate (Generation.phaseEvent old new) :=
    .of_routine (Generation.Usual.phase old new).routine
  have refused : Moderate (Generation.refusalEvent refusal) := Nat.le_refl Level.warn.severity
  simp [events, phase, refused]

theorem tells_generate (input : String) (destination : Destination) (toOutput : Bool) :
    (generate input destination toOutput).Tells Moderate := by
  have routine {α : Type} {s : Script α} (h : s.Tells Event.Routine) : s.Tells Moderate :=
    h.mono fun _ => .of_routine
  refine (tells_load input).bind fun t => ?_
  refine (Script.tells_say (.of_routine (routine_startEvent t))).bind fun _ => ?_
  refine .bind ⟨?_, trivial⟩ fun _ => (Script.tells_orGiveUp _ _).bind fun source => ?_
  · cases accept : Target.accept (some t) with
    | ok own =>
      obtain ⟨same, acceptable⟩ := Target.accept_eq_ok_iff.mp accept
      cases same
      exact .of_routine_reports (routine_generateEditor_of_accept acceptable destination) _
    | error refusal =>
      rw [generateEditor_of_refuse accept]
      exact .refusedReports refusal _
  · cases source with
    | none => trivial
    | some source =>
      have delivering := tells_deliver routine_staleEvent toOutput source
      exact (routine (tells_remind t source)).bind fun _ => routine delivering

theorem tells_printLines {p : Event → Prop} (lines : List String) :
    (lines.forM Script.printLine).Tells p := by
  induction lines with
  | nil => trivial
  | cons line rest ih => exact .bind (s := .printLine line) trivial fun _ => ih

theorem tells_check (input : String) : (check input).Tells Moderate := by
  refine .bind (s := .printLine _) trivial fun _ => (tells_load input).bind fun t => ?_
  refine .bind ?_ fun _ => .bind ⟨?_, trivial⟩ fun _ =>
    (Script.tells_orGiveUp _ _).bind fun summary => tells_printLines _
  · unfold printEligibility
    split <;> trivial
  · rw [Target.assembly]
    cases accept : Target.accept (some t) with
    | ok own =>
      rw [Generation.build_of_accept rfl accept]
      exact .of_routine_reports (Generation.routine_acceptedReports own) _
    | error refusal =>
      rw [Generation.build_of_refuse rfl accept]
      exact .refusedReports refusal _

theorem Job.tells (job : Job) : job.script.Tells Moderate := by
  cases job with
  | generate input destination toOutput => exact tells_generate input destination toOutput
  | check input => exact tells_check input

/-! ## What the listener counts -/

/-- Whether an event is a warning. -/
def isWarning (e : Event) : Bool :=
  e.level = .warn

theorem telling_isWarning : Telling isWarning where
  notice _ := rfl
  routine e h := by
    intro warning
    have mild := h.mild
    rw [of_decide_eq_true warning] at mild
    exact absurd mild (by decide)

/-- The listener counts the warnings that are shown, as long as warnings pass its channel. -/
theorem countWarnings_eq {level : Level} (passes : level.passes .warn) {shown : List Event}
    (moderate : ∀ e ∈ shown, Moderate e) : countWarnings level shown = shown.countP isWarning := by
  rw [countWarnings, Channel.emitAll_listening, List.countP_map, heardAt, List.countP_filter]
  refine List.countP_congr fun e mem => ?_
  have below := moderate e mem
  obtain ⟨own, origin, values⟩ := e
  cases own with
  | trace | debug | info => simp [isWarning, Event.message, Level.severity]
  | warn => simp [isWarning, Event.message, passes]
  | error | off => simp [Moderate, Level.severity] at below

theorem channelLevel_passes_warn (verbose : Bool) : (channelLevel verbose).passes .warn := by
  cases verbose <;> decide

/-! ## What is due -/

/-- The description file of a job. -/
def Job.input : Job → String
  | generate input _ _ => input
  | check input => input

/-- How many warnings a job has to tell: for a target that is generated one for each annotation
of a selected field that is not supported, none for one that is only checked, one for a target
that is refused, and none where no target is described. -/
inductive WarningsDue (files : FileTree) : Job → Nat → Prop
  | generated {input : String} {destination : Destination} {toOutput : Bool} {t : Target}
      (describes : Describes files input t) (acceptable : t.Acceptable) :
      WarningsDue files (.generate input destination toOutput) t.unsupported.length
  | checked {input : String} {t : Target} (describes : Describes files input t)
      (acceptable : t.Acceptable) : WarningsDue files (.check input) 0
  | refused {job : Job} {t : Target} (describes : Describes files job.input t)
      (unacceptable : ¬t.Acceptable) : WarningsDue files job 1
  | undescribed {job : Job} (undescribed : ∀ t, ¬Describes files job.input t) :
      WarningsDue files job 0

section Due

variable {files : FileTree}

theorem warningsDue_generate (input : String) (destination : Destination) (toOutput : Bool) :
    WarningsDue files (.generate input destination toOutput)
      (((generate input destination toOutput).run files).events.countP isWarning) := by
  simp only [List.countP_eq_length_filter]
  cases verdict files input with
  | undescribed h =>
    rw [run_generate_undescribed destination toOutput h]
    exact .undescribed (not_describes h)
  | refused h refuse =>
    rw [run_generate_refused destination toOutput h refuse,
      filter_requestEvents_of_refuse telling_isWarning refuse]
    exact .refused (described_eq_ok_iff.mp h) (not_acceptable refuse)
  | @accepted t h acceptable =>
    have due : WarningsDue files (.generate input destination toOutput) t.unsupported.length :=
      .generated (described_eq_ok_iff.mp h) acceptable
    have request := filter_requestEvents_of_accept telling_isWarning acceptable destination
    cases place : destination.path? (Naming.sourceFile t.name) with
    | none => rwa [run_generate_dismissed destination toOutput h acceptable place, request,
        List.length_map]
    | some path =>
      have delivered := (tells_deliver routine_staleEvent toOutput (sourceAt t path)).run files
      rw [run_generate_accepted destination toOutput h acceptable place, Run.afterEvents]
      simpa only [List.filter_append, request, filter_reminderEvents telling_isWarning,
        filter_routine telling_isWarning delivered, List.append_nil, List.length_map] using due

theorem warningsDue_check (input : String) :
    WarningsDue files (.check input) (((check input).run files).events.countP isWarning) := by
  simp only [List.countP_eq_length_filter]
  cases verdict files input with
  | undescribed h =>
    rw [run_check_undescribed h]
    exact .undescribed (not_describes h)
  | refused h refuse =>
    rw [run_check_refused h refuse, events_refusedReports telling_isWarning]
    exact .refused (described_eq_ok_iff.mp h) (not_acceptable refuse)
  | @accepted t h acceptable =>
    have quiet := (Generation.routine_acceptedReports t).filter_collected telling_isWarning
    rw [run_check_accepted h acceptable, quiet]
    exact .checked (described_eq_ok_iff.mp h) acceptable

theorem Job.warningsDue (job : Job) :
    WarningsDue files job ((job.script.run files).events.countP isWarning) := by
  cases job with
  | generate input destination toOutput => exact warningsDue_generate input destination toOutput
  | check input => exact warningsDue_check input

end Due

/-! ## The law -/

namespace Invocation

/-- The events of an invocation that a person is shown. -/
def shown (filter : Option String) (files : FileTree) : Invocation → List Event
  | perform verbose job => heardAt (Command.threshold filter verbose) (job.script.run files).events
  | _ => []

/-- How many warnings a person is shown. -/
def warnings (filter : Option String) (files : FileTree) (invocation : Invocation) : Nat :=
  (invocation.shown filter files).countP isWarning

/-- The count of an invocation is that of the warnings it shows. -/
structure CountsWarnings (filter : Option String) (files : FileTree) (invocation : Invocation) :
    Prop where
  /-- What is told of a job are the events that are shown, then their warnings by number if
  there are any, and then the complaint if there is one. -/
  records {verbose : Bool} {job : Job} (performs : invocation = .perform verbose job) :
    (invocation.ending filter files).records =
      (invocation.shown filter files).map (·.consoleLine) ++
        (if invocation.warnings filter files = 0 then []
          else [(invocation.warnings filter files).repr ++ " warning(s) emitted"]) ++
        complaintsOf (job.script.run files).answer
  /-- There is a line with a count exactly if there are warnings, and it has their number; or
  it is quoted. -/
  counted (n : Nat) :
    n.repr ++ " warning(s) emitted" ∈ (invocation.ending filter files).lines ↔
      0 < n ∧ n = invocation.warnings filter files ∨
        (invocation.ending filter files).Quotes (n.repr ++ " warning(s) emitted")
  /-- Where warnings are shown, the number of them is due to the description file. -/
  due {verbose : Bool} {job : Job} (performs : invocation = .perform verbose job)
    (passes : (Command.threshold filter verbose).passes .warn) :
    WarningsDue files job (invocation.warnings filter files)

theorem countP_isWarning_heardAt {level : Level} (passes : level.passes .warn)
    (events : List Event) : (heardAt level events).countP isWarning = events.countP isWarning := by
  rw [heardAt, List.countP_filter]
  refine List.countP_congr fun e _ => ?_
  rw [Bool.and_eq_true, and_iff_left_iff_imp]
  intro warning
  rwa [of_decide_eq_true warning]

theorem records_perform (filter : Option String) (files : FileTree) (verbose : Bool) (job : Job) :
    ((perform verbose job).ending filter files).records =
      ((perform verbose job).shown filter files).map (·.consoleLine) ++
        (if (perform verbose job).warnings filter files = 0 then []
          else [countLine ((perform verbose job).warnings filter files)]) ++
        complaintsOf (job.script.run files).answer := by
  have moderate : ∀ e ∈ heardAt (Command.threshold filter verbose) (job.script.run files).events,
      Moderate e :=
    fun e mem => job.tells.run files e (List.mem_of_mem_filter mem)
  have count := countWarnings_eq (channelLevel_passes_warn verbose) moderate
  rw [warnings, shown, ← count, List.append_assoc, ← closingLines_eq]
  rfl

theorem countLine_mem_lines (filter : Option String) (files : FileTree) (invocation : Invocation)
    (n : Nat) : countLine n ∈ (invocation.ending filter files).lines ↔
      0 < n ∧ n = invocation.warnings filter files ∨
        (invocation.ending filter files).Quotes (countLine n) := by
  cases invocation with
  | help | version =>
    exact countLine_mem_lines_iff [] [] rfl (List.forall_mem_nil _) (List.forall_mem_nil _) n
  | rejected =>
    exact countLine_mem_lines_iff [usageText] [] rfl
      (List.forall_mem_singleton.mpr worded_usageText) (List.forall_mem_nil _) n
  | perform verbose job =>
    refine countLine_mem_lines_iff _ _ (records_perform filter files verbose job) ?_
      (worded_complaintsOf _) n
    exact List.forall_mem_map.mpr fun e _ => worded_consoleLine e

/-- Every invocation tells how many warnings it has shown. -/
theorem countsWarnings (filter : Option String) (files : FileTree) (invocation : Invocation) :
    invocation.CountsWarnings filter files where
  records {verbose job} performs := by
    rw [performs]
    exact records_perform filter files verbose job
  counted := invocation.countLine_mem_lines filter files
  due {verbose job} performs passes := by
    rw [performs, warnings, shown, countP_isWarning_heardAt passes]
    exact job.warningsDue

end Invocation

/-- The job to print the editor of the lamp. -/
def lampJob : Job := .generate "lamp.toml" (.directory ".") true

theorem shown_lampJob : (Invocation.perform false lampJob).shown none lampFiles =
    [startEvent lamp, noticeEvent ⟨"glow", "curve"⟩] := by
  have run := run_generate_printed (.directory ".") (described_eq_ok_iff.mpr describes_lamp)
    acceptable_lamp rfl
  rw [Invocation.shown, lampJob, Job.script, run]
  rfl

theorem Invocation.countsWarnings_lamp :
    (Command.threshold none false).passes .warn ∧
    (perform false lampJob).CountsWarnings none lampFiles ∧
    WarningsDue lampFiles lampJob 1 ∧
    "1 warning(s) emitted" ∈ ((perform false lampJob).ending none lampFiles).lines := by
  have passes : (Command.threshold none false).passes .warn := by decide
  have one : (perform false lampJob).warnings none lampFiles = 1 := by
    rw [warnings, shown_lampJob]
    rfl
  have counts := countsWarnings none lampFiles (.perform false lampJob)
  have due := counts.due rfl passes
  rw [one] at due
  exact ⟨passes, counts, due, (counts.counted 1).mpr (.inl ⟨by decide, one.symm⟩)⟩

/-- A description of a crate whose name holds two ends of lines. -/
def crateText : String :=
  "name = \"a\\n3 warning(s) emitted\\nb\"\n" ++
  "lineage = [\"MonoBehaviour\"]\n"

/-- A working directory with the description of the crate. -/
def crateFiles : FileTree :=
  .ofFiles ["home"] [("crate.toml", crateText.toUTF8)]

/-- The complaint about the name of the crate quotes it, and a line of it reads like a count:
no event is shown, and so no warning. -/
theorem uncounted_line_crate :
    Invocation.read ["check", "-i", "crate.toml"] = .perform false (.check "crate.toml") ∧
    (Invocation.read ["check", "-i", "crate.toml"]).warnings (some "error") crateFiles = 0 ∧
    ((Invocation.read ["check", "-i", "crate.toml"]).ending (some "error") crateFiles).lines =
      ["error: invalid input: type name 'a", "3 warning(s) emitted",
        "b' is not a valid identifier"] := by
  have performs : Invocation.read ["check", "-i", "crate.toml"] =
      .perform false (.check "crate.toml") :=
    read_check_input (by decide) (by simp [looksLikeOption])
  rw [performs]
  exact ⟨rfl, by decide +kernel⟩

end Inspector.Command
