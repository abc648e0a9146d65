import Inspector.Proofs.Command.Told
import Inspector.Proofs.Generation.Verdict
import Inspector.Proofs.Plan.Altered

/-!
# The reminder

An editor draws headings, gaps, ranges and tooltips by itself, and what is left of them on
the target is drawn twice. So finished source names the fields that have some, and the job
that generates it reminds of them.

When it does so cannot be seen from what a run comes to, where events, text and files are
apart. The acts of a run are all of it in one sequence (`Script.acts`): an event that is
told, a text that is printed, a change that is tried. The acts of two scripts are those of
the one and then, if it answered, those of the other (`Script.acts_bind`).

**The law** (`reminder_exact`): the flag of a plan is up exactly for fields whose code is not
that of the bare field, and the source of an accepted target names the selected ones among
them, in order. If there are any, the job tells of them once, at the level `info`, and of no
others; otherwise it never does. Before that it has only told events, so that nothing is
printed or changed yet.
-/

namespace Inspector.Command

open Diagnostics Files

/-! ## Acts -/

/-- What a script does in the sight of others. -/
inductive Act where
  | told (e : Event)
  | printed (text : String)
  /-- A change is tried. -/
  | changed (c : Change)

namespace Script

variable {α β : Type}

/-- The acts of a script on a file tree, in order. -/
def acts {α : Type} : Script α → FileTree → List Act
  | done _, _ => []
  | giveUp _, _ => []
  | print text rest, t => .printed text :: rest.acts t
  | report events rest, t => events.map .told ++ rest.acts t
  | read path next, t => (next (t.read path)).acts t
  | ask question next, t => (next (t.ask question)).acts t
  | change c next, t =>
    .changed c :: match t.change c with
      | .ok after => (next (.ok ())).acts after
      | .error fault => (next (.error fault)).acts t

/-- The events that are told are those of the run. -/
theorem told_mem_acts_iff {s : Script α} {t : FileTree} {e : Event} :
    .told e ∈ s.acts t ↔ e ∈ (s.run t).events := by
  induction s generalizing t with
  | done a => simp [acts, run]
  | giveUp complaint => simp [acts, run]
  | print text rest ih => simp [acts, run, Run.afterText, ih]
  | report events rest ih => simp [acts, run, Run.afterEvents, ih]
  | read path next ih => exact ih _
  | ask question next ih => exact ih _
  | change c next ih =>
    rw [acts, run]
    cases t.change c <;> simp [ih]

/-- The acts of a script that follows another one, if that answered. -/
def actsAfter (r : Run α) (next : α → Script β) : List Act :=
  match r.answer with
  | .ok a => (next a).acts r.files
  | .error _ => []

theorem acts_bind (s : Script α) (next : α → Script β) (t : FileTree) :
    (s >>= next).acts t = s.acts t ++ actsAfter (s.run t) next := by
  change (s.andThen next).acts t = _
  induction s generalizing t with
  | done a => rfl
  | giveUp complaint => rfl
  | print text rest ih =>
    rw [andThen, acts, ih]
    rfl
  | report events rest ih =>
    rw [andThen, acts, ih, acts, List.append_assoc]
    rfl
  | read path follow ih => exact ih _ t
  | ask question follow ih => exact ih _ t
  | change c follow ih =>
    rw [andThen, acts, acts, run]
    cases t.change c with
    | ok after => simp [ih]
    | error fault => simp [ih]

theorem acts_report (events : List Event) (t : FileTree) :
    (report events (done ())).acts t = events.map .told :=
  List.append_nil _

theorem acts_orGiveUp {ε : Type} (complain : ε → Complaint) (result : Except ε α) (t : FileTree) :
    (orGiveUp complain result).acts t = [] := by
  cases result <;> rfl

end Script

/-! ## The job -/

theorem acts_load (path : String) (files : FileTree) : (load path).acts files = [] := by
  rw [load, Script.acts]
  cases files.read path with
  | error fault => rfl
  | ok content =>
    cases decoded : String.fromUTF8? content with
    | none =>
      simp only [decoded]
      rfl
    | some text => simp only [decoded, Script.acts_orGiveUp]

theorem acts_remind (t : Target) (source : Source) (files : FileTree) :
    (remind t source).acts files = (reminderEvents t source).map .told := by
  unfold remind reminderEvents
  split <;> rfl

section Generate

variable {files : FileTree} {input : String} {t : Target} {destination : Destination}

/-- What a job does for an accepted target: it tells of the request and of the annotations,
and then it delivers. -/
theorem acts_generate {path : String} (toOutput : Bool) (h : described files input = .ok t)
    (acceptable : t.Acceptable)
    (given : destination.path? (Naming.sourceFile t.name) = some path) :
    (generate input destination toOutput).acts files =
      (requestEvents t destination).map .told ++
        (reminderEvents t (sourceAt t path)).map .told ++
        (deliver toOutput (sourceAt t path)).acts files := by
  have answer := answer_generateEditor destination acceptable
  rw [given] at answer
  rw [generate, Script.acts_bind, acts_load, run_load, h]
  simp only [Script.actsAfter, Script.acts_bind, Script.say, Script.acts_report, Script.run,
    Script.acts_orGiveUp, Script.run_orGiveUp, Run.afterEvents, answer, Except.mapError,
    Option.map_some, acts_remind, run_remind]
  simp [requestEvents]

/-! ## Who reminds -/

/-- The words that remind of annotations. -/
def reminderWords : String :=
  "remove Header, Space, Range and Tooltip annotations from the target type"

/-- No report of a request has these words. -/
theorem not_reminds_of_usual {e : Event} (h : Generation.Usual e) :
    e.tells reminderWords = false := by
  cases h <;> exact (Event.tells_of ..).trans (by decide)

theorem not_reminds_of_mem_requestEvents (acceptable : t.Acceptable) {e : Event}
    (mem : e ∈ requestEvents t destination) : e.tells reminderWords = false := by
  rcases List.mem_cons.mp mem with rfl | mem
  · exact (Event.tells_of ..).trans (by decide)
  · refine not_tells_of_mem_events (by decide) (fun e there => ?_) mem
    exact not_reminds_of_usual (.of_generateEditor acceptable there)

theorem not_reminds_of_mem_deliver {toOutput : Bool} {source : Source} {e : Event}
    (mem : .told e ∈ (deliver toOutput source).acts files) : e.tells reminderWords = false := by
  have stale (path : String) : (staleEvent path).tells reminderWords = false :=
    (Event.tells_of ..).trans (by decide)
  have told := Script.told_mem_acts_iff.mp mem
  exact (tells_deliver (p := fun e => e.tells reminderWords = false) stale _ _).run files e told

end Generate

/-! ## The law -/

/-- The event that reminds of the annotations of some fields. -/
def reminder (t : Target) (fields : List String) : Event :=
  .of .info "editorgen::generate" reminderWords
    [("type_name", .text t.name), ("fields", .shown (String.intercalate ", " fields))]

/-- The source of a target, and the job that generates it, say of which fields the editor
draws the annotations. -/
structure Reminds (t : Target) (destination : Destination) : Prop where
  /-- The source names the selected fields whose annotations make a difference. -/
  source : ∃ source, (generateEditor (some t) destination).answer = .ok (some source) ∧
    source.annotated = t.altered
  /-- The job tells of them if there are any, once, and before it prints or changes
  anything. -/
  job : ∀ (files : FileTree) (input : String) (toOutput : Bool), Describes files input t →
    ∃ (before : List Event) (after : List Act),
      (Job.generate input destination toOutput).script.acts files =
          before.map .told ++ (if t.altered = [] then [] else [.told (reminder t t.altered)]) ++
            after ∧
        (∀ e ∈ before, e.tells reminderWords = false) ∧
        ∀ e, .told e ∈ after → e.tells reminderWords = false

theorem map_told_reminderEvents (t : Target) (path : String) :
    (reminderEvents t (sourceAt t path)).map Act.told =
      if t.altered = [] then [] else [.told (reminder t t.altered)] := by
  have annotated : (sourceAt t path).annotated = t.altered := t.annotated_draft
  rw [reminderEvents, reminderEvent, annotated]
  split <;> rfl

/-- The flag of a plan, the list of a source and the reminder of a job are all about the
fields whose annotations make a difference to their code. -/
theorem reminder_exact :
    (∀ f : Field, f.plan.drawsAnnotations ↔ f.plan.code ≠ f.bare.plan.code) ∧
    ∀ (t : Target) (destination : Destination),
      (Generation.build (some t) .initial).answer = .ok () → destination ≠ .cancelled →
        Reminds t destination := by
  refine ⟨Field.drawsAnnotations_iff, fun t destination accepted own => ?_⟩
  have acceptable := Target.acceptable_of_build accepted
  obtain ⟨path, given⟩ := exists_path own (Naming.sourceFile t.name)
  constructor
  · refine ⟨sourceAt t path, ?_, t.annotated_draft⟩
    rw [answer_generateEditor destination acceptable, given]
    rfl
  · intro files input toOutput describes
    refine ⟨requestEvents t destination, (deliver toOutput (sourceAt t path)).acts files, ?_, ?_,
      ?_⟩
    · show (generate input destination toOutput).acts files = _
      rw [acts_generate toOutput (described_eq_ok_iff.mpr describes) acceptable given,
        map_told_reminderEvents]
    · intro e mem
      exact not_reminds_of_mem_requestEvents acceptable mem
    · intro e mem
      exact not_reminds_of_mem_deliver mem

/-- A description of a sign that has a field with a hint. -/
def signText : String :=
  "\x7b\"name\":\"Sign\",\"lineage\":[\"MonoBehaviour\"],\"fields\":[" ++
    "\x7b\"name\":\"text\",\"type\":\"int\",\"annotations\":[" ++
      "\x7b\"kind\":\"tooltip\",\"text\":\"Way\"\x7d]\x7d]\x7d"

/-- A working directory with the description. -/
def signFiles : FileTree :=
  .ofFiles ["home"] [("sign.json", signText.toUTF8)]

/-- The target that it describes. -/
def sign : Target where
  name := "Sign"
  scope := none
  lineage := ["MonoBehaviour"]
  fields := [⟨"text", "int", .isPublic, [.tooltip "Way"]⟩]

theorem describes_sign : Describes signFiles "sign.json" sign :=
  describes_of_toOption (by decide +kernel)

theorem reminder_exact_sign :
    (Generation.build (some sign) .initial).answer = .ok () ∧
    (.directory "out" : Destination) ≠ .cancelled ∧ Describes signFiles "sign.json" sign ∧
    sign.altered = ["text"] ∧ Reminds sign (.directory "out") ∧
    .told (reminder sign ["text"]) ∈
      (Job.generate "sign.json" (.directory "out") false).script.acts signFiles := by
  have accepted : (Generation.build (some sign) .initial).answer = .ok () := rfl
  have own : (.directory "out" : Destination) ≠ .cancelled := nofun
  have altered : sign.altered = ["text"] := by decide
  have reminds := reminder_exact.2 sign (.directory "out") accepted own
  obtain ⟨before, after, acts, -⟩ := reminds.job signFiles "sign.json" false describes_sign
  rw [altered] at acts
  refine ⟨accepted, own, describes_sign, altered, reminds, ?_⟩
  rw [acts]
  simp

end Inspector.Command
