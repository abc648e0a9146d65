import Inspector.Command.Job
import Inspector.Proofs.Answers
import Inspector.Proofs.Generation.Notices

/-!
# Runs of jobs

What a job comes to, for each way it can go. A description that gives no target ends
every job where it is; a target that is refused ends it after the request has reported;
and only the job that generates goes on from there to the files, with the source that
the request answered.

A script that follows another one starts on the files that the first one leaves, and
only if the first one answered (`Script.run_bind`). Everything here is this law, step by
step through a job.

The description of a lamp, in TOML, stands for those that describe an acceptable target
(`describes_lamp`).
-/

namespace Inspector.Command

open Diagnostics Files

/-! ## Scripts one after the other -/

variable {α β : Type}

/-- A run, and what follows it if it answered. -/
def Run.andThen (r : Run α) (next : α → FileTree → Run β) : Run β :=
  match r.answer with
  | .ok a => ((next a r.files).afterEvents r.events).afterText r.printed
  | .error complaint => ⟨r.files, r.printed, r.events, .error complaint⟩

theorem Run.andThen_ok (files : FileTree) (a : α) (next : α → FileTree → Run β) :
    (Run.mk files "" [] (.ok a)).andThen next = next a files := by
  simp [andThen, afterText, afterEvents]

theorem Run.afterText_andThen (r : Run α) (text : String) (next : α → FileTree → Run β) :
    (r.afterText text).andThen next = (r.andThen next).afterText text := by
  obtain ⟨files, printed, events, answer⟩ := r
  cases answer <;> simp [andThen, afterText, afterEvents, String.append_assoc]

theorem Run.afterEvents_andThen (r : Run α) (events : List Event) (next : α → FileTree → Run β) :
    (r.afterEvents events).andThen next = (r.andThen next).afterEvents events := by
  obtain ⟨files, printed, own, answer⟩ := r
  cases answer <;> simp [andThen, afterText, afterEvents]

namespace Script

theorem run_bind (s : Script α) (next : α → Script β) (t : FileTree) :
    (s >>= next).run t = (s.run t).andThen fun a => (next a).run := by
  change (s.andThen next).run t = _
  induction s generalizing t with
  | done a => simp [andThen, run, Run.andThen, Run.afterText, Run.afterEvents]
  | giveUp complaint => rfl
  | print text rest ih => rw [andThen, run, ih, run, Run.afterText_andThen]
  | report events rest ih => rw [andThen, run, ih, run, Run.afterEvents_andThen]
  | read path follow ih => exact ih _ t
  | ask question follow ih => exact ih _ t
  | change c follow ih =>
    rw [andThen, run, run]
    split
    · exact ih _ _
    · exact ih _ t

theorem run_printLine (line : String) (t : FileTree) :
    (printLine line).run t = ⟨t, line ++ "\n", [], .ok ()⟩ := by
  rw [printLine, run, run, Run.afterText, String.append_empty]

theorem run_forM_printLine (lines : List String) (t : FileTree) :
    (lines.forM printLine).run t = ⟨t, String.join (lines.map (· ++ "\n")), [], .ok ()⟩ := by
  induction lines with
  | nil => rfl
  | cons line rest ih =>
    change (printLine line >>= fun _ => rest.forM printLine).run t = _
    simp only [run_bind, ih, run_printLine, Run.andThen, Run.afterText, Run.afterEvents,
      List.map_cons, String.join_cons, List.nil_append]

theorem run_orGiveUp {ε : Type} (complain : ε → Complaint) (result : Except ε α) (t : FileTree) :
    (orGiveUp complain result).run t = ⟨t, "", [], result.mapError complain⟩ := by
  cases result <;> rfl

end Script

/-! ## Descriptions -/

/-- A file that can be read holds a description, and the description describes a target. -/
def Describes (files : FileTree) (path : String) (t : Target) : Prop :=
  ∃ content text d, files.read path = .ok content ∧ String.fromUTF8? content = some text ∧
    Description.read? (.ofExtension (extension? path)) text = some d ∧ d.toTarget = .ok t

/-- The target that a file describes, or why it describes none. -/
def described (files : FileTree) (path : String) : Except Complaint Target :=
  match files.read path with
  | .error fault => .error (.unreadable path fault)
  | .ok content =>
    match String.fromUTF8? content with
    | none => .error (.undecodable path)
    | some text => (Target.load (.ofExtension (extension? path)) text).mapError .unusable

theorem described_eq_ok_iff {files : FileTree} {path : String} {t : Target} :
    described files path = .ok t ↔ Describes files path t := by
  rw [described, Describes]
  cases files.read path with
  | error fault => simp
  | ok content =>
    cases decoded : String.fromUTF8? content with
    | none => simp [decoded]
    | some text =>
      simp only [mapError_eq_ok_iff, Target.load, Except.ok.injEq, exists_and_left, exists_eq_left',
        decoded, Option.some.injEq]
      cases Description.read? (.ofExtension (extension? path)) text with
      | none => simp
      | some d => simp [mapError_eq_ok_iff]

/-- What a file describes, found by reading it. -/
theorem describes_of_toOption {files : FileTree} {path : String} {t : Target}
    (h : (described files path).toOption = some t) : Describes files path t := by
  cases known : described files path with
  | error complaint =>
    rw [known] at h
    cases h
  | ok own =>
    rw [known] at h
    cases h
    exact described_eq_ok_iff.mp known

theorem not_describes {files : FileTree} {path : String} {complaint : Complaint}
    (h : described files path = .error complaint) (t : Target) : ¬Describes files path t := by
  simp [← described_eq_ok_iff, h]

/-- What is refused may not have an editor. -/
theorem not_acceptable {t : Target} {refusal : Refusal}
    (refuse : Target.accept (some t) = .error refusal) : ¬t.Acceptable := by
  intro acceptable
  rw [acceptable.accept] at refuse
  cases refuse

/-- A file that gives no target is an ordinary failure. -/
theorem status_of_undescribed {files : FileTree} {path : String} {complaint : Complaint}
    (h : described files path = .error complaint) : complaint.status = 1 := by
  rw [described] at h
  split at h
  · cases h
    rfl
  · split at h
    · cases h
      rfl
    · next text _ =>
      cases loaded : Target.load (.ofExtension (extension? path)) text <;>
        rw [loaded] at h <;> cases h
      rfl

/-- How it stands with a description file: it describes no target, or one that is refused, or
one that may have an editor. -/
inductive Verdict (files : FileTree) (input : String) : Prop where
  | undescribed {complaint : Complaint} (h : described files input = .error complaint)
  | refused {t : Target} {refusal : Refusal} (h : described files input = .ok t)
      (refuse : Target.accept (some t) = .error refusal)
  | accepted {t : Target} (h : described files input = .ok t) (acceptable : t.Acceptable)

theorem verdict (files : FileTree) (input : String) : Verdict files input := by
  cases h : described files input with
  | error complaint => exact .undescribed h
  | ok t =>
    cases accept : Target.accept (some t) with
    | error refusal => exact .refused h accept
    | ok own =>
      obtain ⟨same, acceptable⟩ := Target.accept_eq_ok_iff.mp accept
      cases same
      exact .accepted h acceptable

theorem run_load (path : String) (files : FileTree) :
    (load path).run files = ⟨files, "", [], described files path⟩ := by
  rw [load, Script.run, described]
  cases files.read path with
  | error fault => rfl
  | ok content =>
    cases decoded : String.fromUTF8? content with
    | none =>
      simp only [decoded]
      rfl
    | some text => simp only [decoded, Script.run_orGiveUp]

/-! ## Generating -/

/-- The events of a job to generate, up to the end of its request. -/
def requestEvents (t : Target) (destination : Destination) : List Event :=
  startEvent t :: Report.events .forwarding (generateEditor (some t) destination).reports

/-- The events that remind of annotations. -/
def reminderEvents (t : Target) (source : Source) : List Event :=
  if source.annotated = [] then [] else [reminderEvent t source]

theorem run_remind (t : Target) (source : Source) (files : FileTree) :
    (remind t source).run files = ⟨files, "", reminderEvents t source, .ok ()⟩ := by
  unfold remind reminderEvents
  split <;> rfl

section Generate

variable {files : FileTree} {input : String} {t : Target}
  (destination : Destination) (toOutput : Bool)

theorem run_generate_undescribed {complaint : Complaint}
    (h : described files input = .error complaint) :
    (generate input destination toOutput).run files = ⟨files, "", [], .error complaint⟩ := by
  rw [generate, Script.run_bind, run_load, h]
  rfl

/-- How a job to generate goes on with the answer of its request. -/
def afterRequest (toOutput : Bool) (t : Target) (files : FileTree) :
    Except Failure (Option Source) → Run Unit
  | .error failure => ⟨files, "", [], .error (.failed failure)⟩
  | .ok none => ⟨files, "", [], .ok ()⟩
  | .ok (some source) =>
    ((deliver toOutput source).run files).afterEvents (reminderEvents t source)

theorem run_generate_described (h : described files input = .ok t) :
    (generate input destination toOutput).run files =
      (afterRequest toOutput t files (generateEditor (some t) destination).answer).afterEvents
        (requestEvents t destination) := by
  rw [generate, Script.run_bind, run_load, h]
  simp only [Run.andThen, Script.run_bind, Script.say, Script.run, Script.run_orGiveUp]
  cases (generateEditor (some t) destination).answer with
  | error failure =>
    simp [Except.mapError, Run.afterText, Run.afterEvents, requestEvents, afterRequest]
  | ok source =>
    cases source with
    | none =>
      simp [Except.mapError, Run.afterText, Run.afterEvents, requestEvents, afterRequest, pure,
        Script.run]
    | some source =>
      simp [Except.mapError, Run.andThen, Run.afterText, Run.afterEvents, requestEvents,
        afterRequest, Script.run_bind, run_remind]

theorem run_generate_refused {refusal : Refusal} (h : described files input = .ok t)
    (refuse : Target.accept (some t) = .error refusal) :
    (generate input destination toOutput).run files =
      ⟨files, "", requestEvents t destination, .error (.failed (.refused refusal))⟩ := by
  rw [run_generate_described destination toOutput h, generateEditor_of_refuse refuse]
  simp [Run.afterEvents, afterRequest]

/-- A destination that was not dismissed has a path. -/
theorem exists_path {destination : Destination} (own : destination ≠ .cancelled) (name : String) :
    ∃ path, destination.path? name = some path := by
  cases destination with
  | directory path => exact ⟨_, rfl⟩
  | file path => exact ⟨_, rfl⟩
  | cancelled => exact (own rfl).elim

/-- The source of an accepted target for a path. -/
def sourceAt (t : Target) (path : String) : Source :=
  (Generation.built t).source t.editor.text path

theorem answer_generateEditor (acceptable : t.Acceptable) :
    (generateEditor (some t) destination).answer =
      .ok ((destination.path? (Naming.sourceFile t.name)).map (sourceAt t)) :=
  acceptable.answer_generateEditor destination

theorem run_generate_accepted {path : String} (h : described files input = .ok t)
    (acceptable : t.Acceptable) (given : destination.path? (Naming.sourceFile t.name) = some path) :
    (generate input destination toOutput).run files =
      ((deliver toOutput (sourceAt t path)).run files).afterEvents
        (requestEvents t destination ++ reminderEvents t (sourceAt t path)) := by
  rw [run_generate_described destination toOutput h, answer_generateEditor destination acceptable,
    given]
  simp [Run.afterEvents, afterRequest]

theorem run_generate_dismissed (h : described files input = .ok t) (acceptable : t.Acceptable)
    (dismissed : destination.path? (Naming.sourceFile t.name) = none) :
    (generate input destination toOutput).run files =
      ⟨files, "", requestEvents t destination, .ok ()⟩ := by
  rw [run_generate_described destination toOutput h, answer_generateEditor destination acceptable,
    dismissed]
  simp [Run.afterEvents, afterRequest]

theorem run_deliver_toOutput (source : Source) (files : FileTree) :
    (deliver true source).run files = ⟨files, source.text, [], .ok ()⟩ := by
  simp [deliver, Script.run, Run.afterText]

theorem run_generate_printed {path : String} (h : described files input = .ok t)
    (acceptable : t.Acceptable) (given : destination.path? (Naming.sourceFile t.name) = some path) :
    (generate input destination true).run files = ⟨files, t.editor.text,
      requestEvents t destination ++ reminderEvents t (sourceAt t path), .ok ()⟩ := by
  rw [run_generate_accepted destination true h acceptable given, run_deliver_toOutput]
  simp [Run.afterEvents, sourceAt, Generation.source]

end Generate

/-! ## Checking -/

/-- The line that a check starts with. -/
def checkingLine (input : String) : String :=
  "Checking description: " ++ input ++ "\n"

/-- A notice in words. -/
def noticeWords (n : Notice) : String :=
  "annotation '" ++ n.kind ++ "' on field '" ++ n.field ++ "' is not supported yet"

/-- The lines that a check prints of a target that is accepted: its name, the number of its
labels, and the notices. -/
def checkLines (input typeName : String) (labels : Nat) (notices : List Notice) : List String :=
  ["Checking description: " ++ input,
    "✓ Type: " ++ typeName ++ " (eligible)",
    "✓ Serialized fields: " ++ labels.repr,
    "✓ Notices: " ++ notices.length.repr] ++
  notices.map (fun n => "  - " ++ noticeWords n) ++
  ["", "Description is valid!"]

/-- The text of a check that finds nothing to refuse. -/
def checkReport (input typeName : String) (labels : Nat) (notices : List Notice) : String :=
  String.join ((checkLines input typeName labels notices).map (· ++ "\n"))

theorem checkReport_eq (input : String) (s : Summary) :
    checkingLine input ++ String.join ((summaryLines s).map (· ++ "\n")) =
      checkReport input s.typeName s.selected s.notices := by
  have lines : checkLines input s.typeName s.selected s.notices =
      ("Checking description: " ++ input) :: summaryLines s := rfl
  rw [checkReport, lines, List.map_cons, String.join_cons]
  rfl

section Check

variable {files : FileTree} {input : String} {t : Target}

theorem run_check_undescribed {complaint : Complaint}
    (h : described files input = .error complaint) :
    (check input).run files = ⟨files, checkingLine input, [], .error complaint⟩ := by
  unfold check checkingLine
  generalize "Checking description: " ++ input = line
  simp only [Script.run_bind, Script.run_printLine, run_load, h, Run.andThen, Run.afterText,
    Run.afterEvents, List.append_nil, String.append_empty]

/-- The text on the eligibility of a target. -/
def eligibilityText (t : Target) : String :=
  if t.isEligible then "" else "✗ " ++ t.qualifiedName ++ " is not eligible" ++ "\n"

theorem run_printEligibility (t : Target) (files : FileTree) :
    (printEligibility t).run files = ⟨files, eligibilityText t, [], .ok ()⟩ := by
  unfold printEligibility eligibilityText
  split
  · rfl
  · rw [Script.run_printLine]

/-- How a check goes on with the answer of the dry run. -/
def afterInspection (files : FileTree) : Except Failure Summary → Run Unit
  | .error failure => ⟨files, "", [], .error (.failed failure)⟩
  | .ok summary => ⟨files, String.join ((summaryLines summary).map (· ++ "\n")), [], .ok ()⟩

theorem run_check_described (h : described files input = .ok t) :
    (check input).run files =
      ((afterInspection files t.inspect).afterEvents
        (Report.events .collecting t.assembly.reports)).afterText
        (checkingLine input ++ eligibilityText t) := by
  unfold check checkingLine
  generalize "Checking description: " ++ input = line
  simp only [Script.run_bind, Script.run_printLine, Script.run, run_load, h,
    run_printEligibility, Script.run_orGiveUp, Run.andThen, Run.afterText, Run.afterEvents,
    List.append_nil, List.nil_append]
  cases t.inspect with
  | error failure =>
    simp only [Except.mapError, afterInspection, String.append_assoc, String.append_empty,
      String.empty_append, List.append_nil]
  | ok summary =>
    simp only [Except.mapError, Script.run_forM_printLine, afterInspection, String.append_assoc,
      String.empty_append, List.append_nil]

theorem run_check_refused {refusal : Refusal} (h : described files input = .ok t)
    (refuse : Target.accept (some t) = .error refusal) :
    (check input).run files = ⟨files, checkingLine input ++ eligibilityText t,
      Report.events .collecting (Generation.refusedReports refusal),
      .error (.failed (.refused refusal))⟩ := by
  rw [run_check_described h, Target.inspect, Target.assembly,
    Generation.build_of_refuse rfl refuse]
  simp only [Except.map, afterInspection, Run.afterEvents, Run.afterText, String.append_empty,
    List.append_nil]

theorem run_check_accepted (h : described files input = .ok t) (acceptable : t.Acceptable) :
    (check input).run files =
      ⟨files, checkReport input t.qualifiedName t.serializedFields.length t.unsupported,
        Report.events .collecting (Generation.acceptedReports t), .ok ()⟩ := by
  have report := checkReport_eq input ⟨t.qualifiedName, t.serializedFields.length, t.unsupported⟩
  rw [run_check_described h, Target.inspect, Target.assembly,
    Generation.build_of_accept rfl acceptable.accept]
  simp only [Except.map, afterInspection, Run.afterEvents, Run.afterText, eligibilityText,
    acceptable.eligible, if_true, Generation.notices_acceptedReports, String.append_empty,
    List.append_nil, report]

end Check

/-! ## A description -/

/-- A description of a lamp whose glow has an annotation that is not supported. -/
def lampText : String :=
  "name = \"Lamp\"\n" ++
  "lineage = [\"MonoBehaviour\"]\n" ++
  "[[fields]]\n" ++
  "name = \"glow\"\n" ++
  "type = \"float\"\n" ++
  "[[fields.annotations]]\n" ++
  "kind = \"curve\"\n"

/-- A working directory with the description of a lamp, and with an older editor. -/
def lampFiles : FileTree :=
  .ofFiles ["home"] [("lamp.toml", lampText.toUTF8), ("LampEditor.cs", "old".toUTF8)]

/-- The target that is described. -/
def lamp : Target where
  name := "Lamp"
  scope := none
  lineage := ["MonoBehaviour"]
  fields := [⟨"glow", "float", .isPublic, [.unrecognized "curve"]⟩]

theorem describes_lamp : Describes lampFiles "lamp.toml" lamp :=
  describes_of_toOption (by decide +kernel)

theorem acceptable_lamp : lamp.Acceptable :=
  Target.acceptable_of_build rfl

end Inspector.Command
