import Inspector.Generation

/-!
# What the operations of a request do

Each operation is said here as a whole: the request after it, its answer and its
reports, for each way it can go. A target is built from an idle request and
either accepted or refused; a kept editor is rendered from a built request, and
the destination is there or was dismissed. In any other phase an operation is
refused and nothing else happens.

The checks between the phases of one operation never fail, so none of them
appears in these equations.
-/

namespace Inspector

open CSharp Diagnostics

namespace Generation

variable {g : Generation}

/-! ## Building -/

/-- The request with the editor of a target. -/
def built (t : Target) : Generation :=
  ⟨.built, t.name, some t.editor, t.draft.annotated⟩

/-- The reports on a target that is accepted. -/
def acceptedReports (t : Target) : List Report :=
  .event (phaseEvent .idle .validating) :: .event (phaseEvent .validating .building) ::
    t.editorReports ++ [.event (phaseEvent .building .built)]

/-- The reports on a target that is refused. -/
def refusedReports (refusal : Refusal) : List Report :=
  [.event (phaseEvent .idle .validating), .event (refusalEvent refusal),
    .event (phaseEvent .validating .failed)]

theorem build_of_accept {target : Option Target} {t : Target} (idle : g.phase = .idle)
    (h : Target.accept target = .ok t) : build target g = ⟨built t, .ok (), acceptedReports t⟩ := by
  obtain ⟨phase, typeName, held, annotated⟩ := g
  cases idle
  rw [build, h]
  rfl

theorem build_of_refuse {target : Option Target} {refusal : Refusal} (idle : g.phase = .idle)
    (h : Target.accept target = .error refusal) :
    build target g =
      ⟨{ g with phase := .failed }, .error (.refused refusal), refusedReports refusal⟩ := by
  obtain ⟨phase, typeName, held, annotated⟩ := g
  cases idle
  rw [build, h]
  rfl

theorem build_of_busy {target : Option Target} (busy : g.phase ≠ .idle) :
    build target g = ⟨g, .error (.refused (.invalidState .idle g.phase)), []⟩ := by
  obtain ⟨phase, typeName, held, annotated⟩ := g
  cases phase with
  | idle => exact (busy rfl).elim
  | validating | building | built | rendered | cancelled | failed => rfl

/-- A fresh request accepts a target exactly if the target may have an editor. -/
theorem build_initial_ok_iff {target : Option Target} :
    (build target .initial).answer = .ok () ↔ ∃ t, Target.accept target = .ok t := by
  cases accepted : Target.accept target with
  | ok t =>
    rw [build_of_accept rfl accepted]
    exact ⟨fun _ => ⟨t, rfl⟩, fun _ => rfl⟩
  | error refusal =>
    rw [build_of_refuse rfl accepted]
    constructor
    · intro h
      cases h
    · rintro ⟨t, h⟩
      cases h

/-! ## Rendering -/

/-- The source of a file at a path, from the request that kept the file. -/
def source (g : Generation) (text path : String) : Source :=
  ⟨text, Naming.sourceFile g.typeName, path, g.annotated⟩

/-- The reports on a file that is rendered. -/
def renderedReports (path text : String) : List Report :=
  [.event (phaseEvent .built .rendered), .event (renderedEvent path text)]

/-- The reports on a destination that was dismissed. -/
def cancelledReports (typeName : String) : List Report :=
  [.event (cancelEvent typeName), .event (phaseEvent .built .cancelled)]

theorem render_of_held {destination : Destination} {unit : CompilationUnit}
    (phase : g.phase = .built) (held : g.held = some unit) :
    render destination g =
      match destination.path? (Naming.sourceFile g.typeName) with
      | some path => finish unit path { g with held := none }
      | none =>
        ⟨{ g with phase := .cancelled, held := none }, .ok none, cancelledReports g.typeName⟩ := by
  obtain ⟨phase, typeName, held, annotated⟩ := g
  cases phase
  cases held
  change ((match destination.path? (Naming.sourceFile typeName) with
    | some path => finish unit path
    | none => _ : Step (Option Source)) _).after [] = _
  cases destination.path? (Naming.sourceFile typeName) <;> rfl

theorem render_of_path {destination : Destination} {unit : CompilationUnit} {path text : String}
    (phase : g.phase = .built) (held : g.held = some unit) (rendered : unit.render = .ok text)
    (given : destination.path? (Naming.sourceFile g.typeName) = some path) :
    render destination g = ⟨{ g with phase := .rendered, held := none, annotated := [] },
      .ok (some (g.source text path)), renderedReports path text⟩ := by
  rw [render_of_held phase held, given]
  obtain ⟨phase, typeName, held, annotated⟩ := g
  cases phase
  simp only [finish, rendered]
  rfl

theorem render_of_dismissed {destination : Destination} {unit : CompilationUnit}
    (phase : g.phase = .built) (held : g.held = some unit)
    (dismissed : destination.path? (Naming.sourceFile g.typeName) = none) :
    render destination g =
      ⟨{ g with phase := .cancelled, held := none }, .ok none, cancelledReports g.typeName⟩ := by
  rw [render_of_held phase held, dismissed]

theorem render_of_unbuilt {destination : Destination} (unbuilt : g.phase ≠ .built) :
    render destination g = ⟨g, .error (.refused (.invalidState .built g.phase)), []⟩ := by
  obtain ⟨phase, typeName, held, annotated⟩ := g
  cases phase with
  | built => exact (unbuilt rfl).elim
  | idle | validating | building | rendered | cancelled | failed => rfl

/-! ## Whole requests -/

end Generation

theorem generateEditor_of_accept {target : Option Target} {t : Target} {destination : Destination}
    (h : Target.accept target = .ok t) : generateEditor target destination =
      (Generation.render destination (.built t)).after (Generation.acceptedReports t) := by
  change Step.andThen (Generation.build target) _ Generation.initial = _
  rw [Step.andThen, Generation.build_of_accept rfl h]

theorem generateEditor_of_refuse {target : Option Target} {refusal : Refusal}
    {destination : Destination} (h : Target.accept target = .error refusal) :
    generateEditor target destination = ⟨{ Generation.initial with phase := .failed },
      .error (.refused refusal), Generation.refusedReports refusal⟩ := by
  change Step.andThen (Generation.build target) _ Generation.initial = _
  rw [Step.andThen, Generation.build_of_refuse rfl h]

end Inspector
