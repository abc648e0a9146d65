import Inspector.Proofs.Generation.Notices

/-!
# Routine events

What is reported on a request whose target is accepted is of a few kinds only
(`Generation.Usual`), and all of them are routine: they say how the request goes on, and
nobody has to be warned. Only two things are not. One is a notice that nobody collects, which
becomes an event of its own; the other is the event on a refusal, and a request is
refused at most once.

So whoever looks for what is out of the ordinary sees, of an accepted target, exactly its
notices (`events_generateEditor_of_accept`), and of a refused one exactly its refusal.
-/

namespace Inspector

open Diagnostics

/-! ## The events of a request -/

namespace Generation

/-- The events that there may be on a request whose target is accepted. -/
inductive Usual : Event → Prop
  | phase (old new : Phase) : Usual (phaseEvent old new)
  | selection (t : Target) : Usual t.selectionEvent
  | fallback (f : Field) (a : Annotation) : Usual (f.fallbackEvent a)
  | adjusted (f : Field) (limit : Number.Single) : Usual (f.adjustedEvent limit)
  | rendered (path text : String) : Usual (renderedEvent path text)
  | cancelled (typeName : String) : Usual (cancelEvent typeName)

theorem Usual.of_editorReports {t : Target} {e : Event} (mem : .event e ∈ t.editorReports) :
    Usual e := by
  rcases List.mem_cons.mp mem with own | mem
  · cases own
    exact .selection t
  · obtain ⟨f, _, own⟩ := List.mem_flatMap.mp mem
    obtain ⟨a, rfl⟩ | ⟨limit, rfl⟩ := f.event_mem_planReports own
    · exact .fallback f a
    · exact .adjusted f limit

theorem Usual.of_acceptedReports {t : Target} {e : Event}
    (mem : .event e ∈ acceptedReports t) : Usual e := by
  simp only [acceptedReports, List.mem_append, List.mem_cons, Report.event.injEq,
    List.not_mem_nil, or_false] at mem
  rcases mem with (rfl | rfl | mem) | rfl
  · exact .phase ..
  · exact .phase ..
  · exact .of_editorReports mem
  · exact .phase ..

theorem Usual.of_render_built {t : Target} (h : t.Acceptable) {destination : Destination}
    {e : Event} (mem : .event e ∈ (render destination (.built t)).reports) : Usual e := by
  have rendered := CSharp.CompilationUnit.render_of_wellNamed h.wellNamed_editor
  cases given : destination.path? (Naming.sourceFile t.name) with
  | some path =>
    rw [render_of_path (g := .built t) rfl rfl rendered given] at mem
    simp only [renderedReports, List.mem_cons, Report.event.injEq, List.not_mem_nil,
      or_false] at mem
    rcases mem with rfl | rfl
    · exact .phase ..
    · exact .rendered ..
  | none =>
    rw [render_of_dismissed (g := .built t) rfl rfl given] at mem
    simp only [cancelledReports, List.mem_cons, Report.event.injEq, List.not_mem_nil,
      or_false] at mem
    rcases mem with rfl | rfl
    · exact .cancelled _
    · exact .phase ..

theorem Usual.of_generateEditor {t : Target} (h : t.Acceptable) {destination : Destination}
    {e : Event} (mem : .event e ∈ (generateEditor (some t) destination).reports) : Usual e := by
  rw [generateEditor_of_accept h.accept] at mem
  rcases List.mem_append.mp mem with mem | mem
  · exact .of_acceptedReports mem
  · exact .of_render_built h mem

end Generation

/-! ## Routine -/

/-- An event of routine: it is below a warning and stands for no notice. -/
structure Diagnostics.Event.Routine (e : Event) : Prop where
  mild : e.level.severity < Level.warn.severity
  other : e.origin ≠ noticeOrigin

theorem Diagnostics.Event.routine_of {level : Level} {origin message : String}
    {values : List (String × Recorded)} (mild : level.severity < Level.warn.severity)
    (other : origin ≠ noticeOrigin) : (Event.of level origin message values).Routine :=
  ⟨mild, other⟩

/-- Reports in which every event is one of routine. -/
def Routine (reports : List Report) : Prop :=
  ∀ e, Report.event e ∈ reports → e.Routine

/-- What is looked for among events: every notice, and nothing that is routine. -/
structure Telling (p : Event → Bool) : Prop where
  notice : ∀ n, p (noticeEvent n)
  routine : ∀ e : Event, e.Routine → ¬p e

namespace Routine

variable {p : Event → Bool} {reports : List Report}

theorem filter_forwarded (h : Routine reports) (telling : Telling p) :
    (Report.events .forwarding reports).filter p = (Report.notices reports).map noticeEvent := by
  induction reports with
  | nil => rfl
  | cons report rest ih =>
    have later := ih fun e mem => h e (.tail _ mem)
    cases report with
    | event e =>
      change (e :: Report.events .forwarding rest).filter p = _
      rw [List.filter_cons_of_neg (telling.routine e (h e (.head _))), later]
      rfl
    | notice n =>
      change (noticeEvent n :: Report.events .forwarding rest).filter p = _
      rw [List.filter_cons_of_pos (telling.notice n), later]
      rfl

theorem filter_collected (h : Routine reports) (telling : Telling p) :
    (Report.events .collecting reports).filter p = [] := by
  refine List.filter_eq_nil_iff.mpr fun e mem => ?_
  obtain ⟨report, there, own⟩ := List.mem_filterMap.mp mem
  cases report with
  | event e' =>
    cases own
    exact telling.routine e (h e there)
  | notice n => cases own

end Routine

namespace Generation

theorem Usual.routine {e : Event} (h : Usual e) : e.Routine := by
  cases h <;> exact Event.routine_of (by decide) (by decide)

theorem routine_acceptedReports (t : Target) : Routine (acceptedReports t) :=
  fun _ mem => (Usual.of_acceptedReports mem).routine

end Generation

theorem routine_generateEditor_of_accept {t : Target} (h : t.Acceptable)
    (destination : Destination) : Routine (generateEditor (some t) destination).reports :=
  fun _ mem => (Generation.Usual.of_generateEditor h mem).routine

/-! ## What is not routine -/

section Telling

variable {p : Event → Bool} {t : Target}

/-- Of an accepted target, the notices are told. -/
theorem events_generateEditor_of_accept (telling : Telling p) (h : t.Acceptable)
    (destination : Destination) :
    (Report.events .forwarding (generateEditor (some t) destination).reports).filter p =
      t.unsupported.map noticeEvent := by
  rw [(routine_generateEditor_of_accept h destination).filter_forwarded telling,
    notices_generateEditor_of_accept h.accept]

/-- Of a refused target, the refusal is told, if it is looked for. -/
theorem events_refusedReports (telling : Telling p) (sink : Sink) (refusal : Refusal) :
    (Report.events sink (Generation.refusedReports refusal)).filter p =
      [Generation.refusalEvent refusal].filter p := by
  have phase (old new : Phase) : ¬p (Generation.phaseEvent old new) :=
    telling.routine _ (Generation.Usual.phase old new).routine
  have events : Report.events sink (Generation.refusedReports refusal) =
      [Generation.phaseEvent .idle .validating] ++ ([Generation.refusalEvent refusal] ++
        [Generation.phaseEvent .validating .failed]) := rfl
  rw [events, List.filter_append, List.filter_append, List.filter_cons_of_neg (phase _ _),
    List.filter_cons_of_neg (phase _ _)]
  simp

end Telling

end Inspector
