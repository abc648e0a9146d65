import Inspector.Command.Console
import Inspector.Proofs.Command.CommandLine
import Inspector.Proofs.Command.Told
import Inspector.Proofs.Editor.Assembly

/-!
# What a check predicts

A check goes another way than a job that generates: it asks a request to build and never to
render, it collects the notices instead of having them told, and it counts the fields on its
own. Still, what it says of a description file is what would come of generating.

**The law** (`check_predicts`): a command line that checks a file and one that prints the
editor for it end with the same status, whatever the files are. The status is 2 exactly if the
file describes a target without an ancestor that has editors, 0 exactly if it describes one
that may have an editor, and 1 otherwise. With 0, what is printed is the editor that the
request held, the check has printed the number of its labels, and the notices that were told
are those that the check has printed (`checkReport`); otherwise nothing is printed.
-/

namespace Inspector.Command

open CSharp Diagnostics Files

/-! ## The status of a job -/

/-- The status that a description file calls for. -/
structure DescriptionStatus (files : FileTree) (input : String) (status : Nat) : Prop where
  ineligible_iff : status = 2 ↔ ∃ t, Describes files input t ∧ ¬t.Eligible
  accepted_iff : status = 0 ↔ ∃ t, Describes files input t ∧ t.Acceptable
  /-- There is no other status besides these. -/
  otherwise : status ≠ 0 → status ≠ 2 → status = 1

theorem code_of_refuse {t : Target} {refusal : Refusal}
    (refuse : Target.accept (some t) = .error refusal) :
    refusal.code = if t.isEligible then 1 else 2 := by
  rw [Target.accept] at refuse
  split at refuse
  next eligible =>
    rw [if_pos eligible]
    split at refuse
    · cases refuse
      rfl
    · cases refuse
  next ineligible =>
    rw [if_neg ineligible]
    cases refuse
    rfl

namespace DescriptionStatus

variable {files : FileTree} {input : String} {t : Target}

theorem undescribed {complaint : Complaint} (h : described files input = .error complaint) :
    DescriptionStatus files input 1 :=
  ⟨by simp [not_describes h], by simp [not_describes h], fun _ _ => rfl⟩

/-- What is said of some target is said of the target that is described. -/
theorem exists_iff (h : described files input = .ok t) {p : Target → Prop} :
    (∃ t, Describes files input t ∧ p t) ↔ p t := by
  simp [← described_eq_ok_iff, h]

theorem refused {refusal : Refusal} (h : described files input = .ok t)
    (refuse : Target.accept (some t) = .error refusal) :
    DescriptionStatus files input refusal.code := by
  have unacceptable := not_acceptable refuse
  have code := code_of_refuse refuse
  by_cases eligible : t.isEligible
  · rw [code, if_pos eligible]
    exact ⟨by simp [exists_iff h, ← Target.isEligible_iff, eligible],
      by simp [exists_iff h, unacceptable], fun _ _ => rfl⟩
  · rw [code, if_neg eligible]
    exact ⟨by simp [exists_iff h, ← Target.isEligible_iff, eligible],
      by simp [exists_iff h, unacceptable], by simp⟩

theorem accepted (h : described files input = .ok t) (acceptable : t.Acceptable) :
    DescriptionStatus files input 0 :=
  ⟨by simp [exists_iff h, ← Target.isEligible_iff, acceptable.eligible],
    by simp [exists_iff h, acceptable], by simp⟩

/-- A description file calls for one status. -/
theorem unique {status other : Nat} (h : DescriptionStatus files input status)
    (h' : DescriptionStatus files input other) : status = other := by
  have zero : status = 0 ↔ other = 0 := h.accepted_iff.trans h'.accepted_iff.symm
  have two : status = 2 ↔ other = 2 := h.ineligible_iff.trans h'.ineligible_iff.symm
  have one := h.otherwise
  have one' := h'.otherwise
  omega

end DescriptionStatus

theorem descriptionStatus_check (files : FileTree) (input : String) :
    DescriptionStatus files input (exitStatus ((check input).run files).answer) := by
  cases verdict files input with
  | undescribed h =>
    rw [run_check_undescribed h, exitStatus, status_of_undescribed h]
    exact .undescribed h
  | refused h refuse =>
    rw [run_check_refused h refuse]
    exact .refused h refuse
  | accepted h acceptable =>
    rw [run_check_accepted h acceptable]
    exact .accepted h acceptable

theorem descriptionStatus_generate {destination : Destination} (own : destination ≠ .cancelled)
    (files : FileTree) (input : String) : DescriptionStatus files input
      (exitStatus ((generate input destination true).run files).answer) := by
  cases verdict files input with
  | undescribed h =>
    rw [run_generate_undescribed destination true h, exitStatus, status_of_undescribed h]
    exact .undescribed h
  | refused h refuse =>
    rw [run_generate_refused destination true h refuse]
    exact .refused h refuse
  | @accepted t h acceptable =>
    obtain ⟨path, given⟩ := exists_path own (Naming.sourceFile t.name)
    rw [run_generate_printed destination h acceptable given]
    exact .accepted h acceptable

theorem printed_of_failure {destination : Destination} (own : destination ≠ .cancelled)
    {files : FileTree} {input : String}
    (failure : exitStatus ((generate input destination true).run files).answer ≠ 0) :
    ((generate input destination true).run files).printed = "" := by
  cases verdict files input with
  | undescribed h => rw [run_generate_undescribed destination true h]
  | refused h refuse => rw [run_generate_refused destination true h refuse]
  | @accepted t h acceptable =>
    obtain ⟨path, given⟩ := exists_path own (Naming.sourceFile t.name)
    rw [run_generate_printed destination h acceptable given] at failure
    exact (failure rfl).elim

/-! ## The law -/

/-- The event that tells of a notice. -/
def noticeTold (n : Notice) : Event :=
  .of .warn "editorgen::notice" (noticeWords n) [("field", .shown n.field), ("kind", .shown n.kind)]

theorem telling_noticeOrigin : Telling fun e => e.origin = noticeOrigin where
  notice _ := decide_eq_true rfl
  routine _ h := by simpa using h.other

/-- What a check tells of the job that prints an editor for the same input, which comes to
another ending and reports some events. -/
structure Predicts (files : FileTree) (input : String) (checked generated : Ending)
    (events : List Event) : Prop where
  same : checked.status = generated.status
  status : DescriptionStatus files input checked.status
  /-- The source is the editor that a request holds for the target; the check has printed the
  number of labels that it declares, and the notices that were told. -/
  accepted : checked.status = 0 → ∃ (t : Target) (unit : CompilationUnit) (notices : List Notice),
    Describes files input t ∧
    (Generation.build (some t) .initial).request.held = some unit ∧
    unit.render = .ok generated.output ∧
    checked.output = checkReport input t.qualifiedName unit.fields.length notices ∧
    events.filter (·.origin = "editorgen::notice") = notices.map noticeTold
  silent : generated.status ≠ 0 → generated.output = ""

/-- A check predicts what comes of printing the editor for the same input. -/
theorem check_predicts (filter other : Option String) (files : FileTree) {input : String}
    {arguments others : List String} {verbose loud : Bool} {destination : Destination}
    (checks : Invocation.read arguments = .perform verbose (.check input))
    (generates : Invocation.read others = .perform loud (.generate input destination true)) :
    Predicts files input ((Invocation.read arguments).ending filter files)
      ((Invocation.read others).ending other files)
      ((generate input destination true).run files).events := by
  obtain ⟨_, _, _, asked, _⟩ := read_generate generates
  have own := Given.ne_cancelled asked
  have checked := descriptionStatus_check files input
  have generated := descriptionStatus_generate own files input
  rw [checks, generates]
  refine ⟨checked.unique generated, checked, fun success => ?_, printed_of_failure own⟩
  obtain ⟨t, describes, acceptable⟩ := checked.accepted_iff.mp success
  have h := described_eq_ok_iff.mpr describes
  obtain ⟨path, given⟩ := exists_path own (Naming.sourceFile t.name)
  have printed := run_generate_printed destination h acceptable given
  refine ⟨t, t.editor, t.unsupported, describes, ?_, ?_, ?_, ?_⟩
  · rw [Generation.build_of_accept rfl acceptable.accept]
    rfl
  · change t.editor.render = .ok ((generate input destination true).run files).printed
    rw [printed]
    exact CompilationUnit.render_of_wellNamed acceptable.wellNamed_editor
  · change ((check input).run files).printed = _
    rw [run_check_accepted h acceptable, t.fields_editor, List.length_map]
  · change List.filter (fun e => decide (e.origin = noticeOrigin)) _ = t.unsupported.map noticeEvent
    rw [printed, List.filter_append,
      filter_requestEvents_of_accept telling_noticeOrigin acceptable,
      filter_reminderEvents telling_noticeOrigin, List.append_nil]

theorem check_predicts_lamp :
    Predicts lampFiles "lamp.toml"
      ((Invocation.read ["check", "-i", "lamp.toml"]).ending none lampFiles)
      ((Invocation.read ["generate", "-i", "lamp.toml", "--stdout"]).ending none lampFiles)
      ((generate "lamp.toml" (.directory ".") true).run lampFiles).events ∧
    ((Invocation.read ["check", "-i", "lamp.toml"]).ending none lampFiles).status = 0 := by
  have plain : looksLikeOption "lamp.toml" = false := by simp [looksLikeOption]
  have predicts := check_predicts none none lampFiles (read_check_input (by decide) plain)
    (read_generate_toOutput (by decide) plain)
  exact ⟨predicts, predicts.status.accepted_iff.mpr ⟨lamp, describes_lamp, acceptable_lamp⟩⟩

end Inspector.Command
