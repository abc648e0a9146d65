import Inspector.Proofs.Diagnostics.Delivery
import Inspector.Proofs.Editor.Names
import Inspector.Proofs.Editor.Reference
import Mathlib.Data.List.Basic

/-!
# The notices of a request

An annotation without a generated form is reported twice where it is met: by an event
that its field is drawn as usual, and by a notice to the sink of the caller. A caller
either collects the notices or has them forwarded to the listener of the host, where
they are messages among all others.

**The law** (`generateEditor_notices`): both callers get the same answer and learn the
same. The one who collects has the notices behind those already held: one for each
such annotation of each selected field in order (`Target.unsupported`), and none of a
target that is refused. The other hears one message for each of them in the same
order, as long as warnings pass; and directly before it the event on its annotation,
as long as that passes too (`Paired`).

The listener here takes note and does nothing else. One that changes the level of its
own channel may hear fewer of them.
-/

namespace Inspector

open Diagnostics

/-! ## What there is to tell -/

/-- The notice on an annotation of a field, if the annotation has no generated form. -/
def Annotation.notice? (field : String) : Annotation → Option Notice
  | deferred kind => some ⟨field, kind.name⟩
  | unrecognized name => some ⟨field, name⟩
  | _ => none

/-- The notices on a target: field by field, and on each in the order of its
annotations. Fields that are not selected have none. -/
def Target.unsupported (t : Target) : List Notice :=
  (Reference.selected t).flatMap fun f => f.annotations.filterMap (·.notice? f.name)

/-- Where forwarded notices come from. -/
def noticeOrigin : String := "editorgen::notice"

/-- What a notice and the event on its annotation say behind their words. -/
def Notice.values (n : Notice) : String :=
  " field=" ++ n.field ++ " kind=" ++ n.kind

/-- A forwarded notice as it is heard. -/
def noticeMessage (n : Notice) : Message :=
  ⟨.warn, noticeOrigin, n.text ++ n.values⟩

/-- The event on the annotation of a notice as it is heard. -/
def fallbackMessage (n : Notice) : Message :=
  ⟨.debug, "editorgen_codegen::annotation",
    "falling back to default field rendering" ++ n.values⟩

/-- Whether a message is a forwarded notice. -/
def Diagnostics.Message.isNotice (m : Message) : Bool :=
  m.level = .warn ∧ m.origin = noticeOrigin

/-- Messages in which the forwarded notices are these, each directly behind the event
on its annotation. -/
inductive Paired : List Message → List Notice → Prop where
  | nil : Paired [] []
  | other {m : Message} {messages : List Message} {notices : List Notice}
      (other : m.origin ≠ noticeOrigin) (rest : Paired messages notices) :
      Paired (m :: messages) notices
  | pair (n : Notice) {messages : List Message} {notices : List Notice}
      (rest : Paired messages notices) :
      Paired (fallbackMessage n :: noticeMessage n :: messages) (n :: notices)

theorem Paired.append {messages more : List Message} {notices others : List Notice}
    (h : Paired messages notices) (h' : Paired more others) :
    Paired (messages ++ more) (notices ++ others) := by
  induction h with
  | nil => exact h'
  | other own _ ih => exact .other own ih
  | pair n _ ih => exact .pair n ih

/-! ## What is told -/

theorem Notice.items_values (n : Notice) :
    Transcript.items [("field", n.field), ("kind", n.kind)] = n.values := by
  have field : " field=" = " " ++ "field" ++ "=" := by decide
  have kind : " kind=" = " " ++ "kind" ++ "=" := by decide
  rw [values, field, kind]
  simp only [Transcript.items, List.foldr_cons, List.foldr_nil, String.append_assoc,
    String.append_empty]

theorem Notice.line_of {level : Level} {origin message : String} (given : message ≠ "")
    {n : Notice} {field kind : Recorded} (own : field.plain = n.field)
    (sort : kind.plain = n.kind) :
    (Event.of level origin message [("field", field), ("kind", kind)]).line =
      message ++ n.values := by
  rw [Event.line_of given (by simp [messageName]), ← items_values, ← own, ← sort]
  rfl

theorem message_noticeEvent (n : Notice) : (noticeEvent n).message = noticeMessage n := by
  have given : n.text ≠ "" := by
    show _ ++ "' is not supported yet" ≠ ""
    simp
  rw [Event.message, noticeEvent, n.line_of given rfl rfl]
  rfl

theorem Field.message_fallbackEvent (f : Field) (a : Annotation) :
    (f.fallbackEvent a).message = fallbackMessage ⟨f.name, a.kind⟩ := by
  rw [Event.message, fallbackEvent, Notice.line_of (n := ⟨f.name, a.kind⟩) (by decide) rfl rfl]
  rfl

/-- The notices among some reports are all told to a listener. -/
structure Told (reports : List Report) : Prop where
  /-- One warning for each, where warnings pass. -/
  warned : ∀ threshold : Level, threshold.passes .warn →
    (messages .forwarding threshold reports).filter (·.isNotice) =
      (Report.notices reports).map noticeMessage
  /-- Directly behind the event on its annotation, where that passes. -/
  paired : ∀ threshold : Level, threshold.passes .debug →
    Paired (messages .forwarding threshold reports) (Report.notices reports)

namespace Told

theorem nil : Told [] where
  warned _ _ := rfl
  paired _ _ := .nil

theorem append {reports more : List Report} (h : Told reports) (h' : Told more) :
    Told (reports ++ more) where
  warned threshold passes := by
    rw [messages_append, List.filter_append, h.warned threshold passes, h'.warned threshold passes,
      Report.notices_append, List.map_append]
  paired threshold passes := by
    rw [messages_append, Report.notices_append]
    exact (h.paired threshold passes).append (h'.paired threshold passes)

theorem flatMap {α : Type} {xs : List α} {reports : α → List Report}
    (each : ∀ x ∈ xs, Told (reports x)) : Told (xs.flatMap reports) := by
  induction xs with
  | nil => exact nil
  | cons x rest ih =>
    obtain ⟨own, others⟩ := List.forall_mem_cons.mp each
    exact own.append (ih others)

/-- An event of another origin is no notice. -/
theorem event {e : Event} (other : e.origin ≠ noticeOrigin) : Told [.event e] := by
  have alone (threshold : Level) : messages .forwarding threshold [.event e] =
      if threshold.passes e.level then [e.message] else [] := by
    rw [messages_eq]
    cases passes : threshold.passes e.level <;> simp [seen, Report.events, heardAt, passes]
  have silent : e.message.isNotice = false := by simp [Message.isNotice, Event.message, other]
  refine ⟨fun threshold _ => ?_, fun threshold _ => ?_⟩
  · rw [alone]
    split
    · exact List.filter_cons_of_neg (by simp [silent])
    · rfl
  · rw [alone]
    split
    · exact .other other .nil
    · exact .nil

/-- A notice behind the event on its annotation. -/
theorem pair {e : Event} {n : Notice} (own : e.message = fallbackMessage n) :
    Told [.event e, .notice n] := by
  have level : e.level = .debug := congrArg Message.level own
  have both (threshold : Level) : messages .forwarding threshold [.event e, .notice n] =
      (if threshold.passes .debug then [fallbackMessage n] else []) ++
        if threshold.passes .warn then [noticeMessage n] else [] := by
    have loud : (noticeEvent n).level = .warn := rfl
    have events : Report.events .forwarding [.event e, .notice n] = [e, noticeEvent n] := rfl
    rw [messages_eq, seen, events, ← own, ← message_noticeEvent, heardAt, List.filter_cons,
      List.filter_cons, level, loud]
    cases threshold.passes .debug <;> cases threshold.passes .warn <;> rfl
  refine ⟨fun threshold passes => ?_, fun threshold passes => ?_⟩
  · rw [both, if_pos passes, List.filter_append]
    split <;> rfl
  · -- What is as grave as a warning passes wherever the event does.
    have louder : threshold.passes .warn := Level.passes_mono passes (by decide) (by decide)
    rw [both, if_pos passes, if_pos louder]
    exact .pair n .nil

end Told

/-- Reports that say nothing of notices: events of other origins. -/
def Aside (reports : List Report) : Prop :=
  ∀ report ∈ reports, ∃ e, report = .event e ∧ e.origin ≠ noticeOrigin

namespace Aside

theorem notices {reports : List Report} (h : Aside reports) : Report.notices reports = [] := by
  refine List.filterMap_eq_nil_iff.mpr fun report mem => ?_
  obtain ⟨e, rfl, _⟩ := h report mem
  rfl

theorem told {reports : List Report} (h : Aside reports) : Told reports := by
  induction reports with
  | nil => exact .nil
  | cons report rest ih =>
    obtain ⟨⟨e, rfl, other⟩, others⟩ := List.forall_mem_cons.mp h
    exact (Told.event other).append (ih others)

end Aside

/-! ## The reports of a request -/

namespace Field

variable (f : Field)

theorem event_mem_annotationReports {a : Annotation} {e : Event}
    (mem : .event e ∈ f.annotationReports a) : e = f.fallbackEvent a := by
  unfold annotationReports at mem
  split at mem
  · simpa only [List.mem_cons, Report.event.injEq, reduceCtorEq, List.not_mem_nil,
      or_false] using mem
  · cases mem

/-- Two kinds of events are reported on the plan of a field: on an annotation, and on a limit. -/
theorem event_mem_planReports {e : Event} (mem : .event e ∈ f.planReports) :
    (∃ a, e = f.fallbackEvent a) ∨ ∃ limit, e = f.adjustedEvent limit := by
  rcases List.mem_append.mp mem with mem | mem
  · obtain ⟨a, _, own⟩ := List.mem_flatMap.mp mem
    exact .inl ⟨a, f.event_mem_annotationReports own⟩
  · unfold limitReports at mem
    split at mem
    · split at mem
      · obtain ⟨limit, _, own⟩ := List.mem_map.mp mem
        cases own
        exact .inr ⟨limit, rfl⟩
      · cases mem
    · cases mem

theorem told_annotationReports (a : Annotation) : Told (f.annotationReports a) := by
  unfold annotationReports
  split
  · exact .pair (f.message_fallbackEvent a)
  · exact .nil

theorem aside_limitReports : Aside f.limitReports := by
  unfold limitReports
  split
  · split
    · intro report mem
      obtain ⟨limit, _, rfl⟩ := List.mem_map.mp mem
      exact ⟨f.adjustedEvent limit, rfl,
        by simp [adjustedEvent, Event.of, planOrigin, noticeOrigin]⟩
    · exact List.forall_mem_nil _
  · exact List.forall_mem_nil _

theorem told_planReports : Told f.planReports :=
  (Told.flatMap fun a _ => f.told_annotationReports a).append f.aside_limitReports.told

theorem notices_annotationReports (a : Annotation) :
    Report.notices (f.annotationReports a) = (a.notice? f.name).toList := by
  cases a <;> rfl

theorem notices_planReports :
    Report.notices f.planReports = f.annotations.filterMap (·.notice? f.name) := by
  rw [planReports, Report.notices_append, f.aside_limitReports.notices, List.append_nil,
    Report.notices_flatMap, List.filterMap_eq_flatMap_toList]
  simp only [notices_annotationReports]

end Field

namespace Target

theorem aside_selectionEvent (t : Target) : Aside [.event t.selectionEvent] := by
  simp [Aside, selectionEvent, Event.of, requestOrigin, noticeOrigin]

theorem told_editorReports (t : Target) : Told t.editorReports :=
  t.aside_selectionEvent.told.append (.flatMap fun f _ => f.told_planReports)

theorem notices_editorReports (t : Target) : Report.notices t.editorReports = t.unsupported := by
  rw [editorReports, ← List.singleton_append, Report.notices_append,
    t.aside_selectionEvent.notices, Report.notices_flatMap, serializedFields_eq, unsupported]
  simp only [Field.notices_planReports, List.nil_append]

end Target

namespace Generation

theorem aside_phaseEvent (old new : Phase) : Aside [.event (phaseEvent old new)] := by
  simp [Aside, phaseEvent, Event.of, Target.requestOrigin, noticeOrigin]

theorem aside_refusedReports (refusal : Refusal) : Aside (refusedReports refusal) := by
  simp [Aside, refusedReports, phaseEvent, refusalEvent, Event.of, Target.requestOrigin,
    noticeOrigin]

theorem aside_renderedReports (path text : String) : Aside (renderedReports path text) := by
  simp [Aside, renderedReports, phaseEvent, renderedEvent, Event.of, Target.requestOrigin,
    noticeOrigin]

theorem aside_cancelledReports (typeName : String) : Aside (cancelledReports typeName) := by
  simp [Aside, cancelledReports, phaseEvent, cancelEvent, Event.of, Target.requestOrigin,
    noticeOrigin]

theorem acceptedReports_eq (t : Target) : acceptedReports t =
    [.event (phaseEvent .idle .validating)] ++ ([.event (phaseEvent .validating .building)] ++
      (t.editorReports ++ [.event (phaseEvent .building .built)])) := rfl

theorem told_acceptedReports (t : Target) : Told (acceptedReports t) := by
  rw [acceptedReports_eq]
  have last := t.told_editorReports.append (aside_phaseEvent .building .built).told
  exact (aside_phaseEvent _ _).told.append ((aside_phaseEvent _ _).told.append last)

theorem notices_acceptedReports (t : Target) :
    Report.notices (acceptedReports t) = t.unsupported := by
  rw [acceptedReports_eq]
  simp only [Report.notices_append, (aside_phaseEvent _ _).notices, t.notices_editorReports,
    List.nil_append, List.append_nil]

theorem aside_render_built {t : Target} (h : t.Acceptable) (destination : Destination) :
    Aside (render destination (.built t)).reports := by
  have rendered := CSharp.CompilationUnit.render_of_wellNamed h.wellNamed_editor
  cases given : destination.path? (Naming.sourceFile t.name) with
  | some path =>
    rw [render_of_path (g := .built t) rfl rfl rendered given]
    exact aside_renderedReports _ _
  | none =>
    rw [render_of_dismissed (g := .built t) rfl rfl given]
    exact aside_cancelledReports _

end Generation

theorem told_generateEditor (target : Option Target) (destination : Destination) :
    Told (generateEditor target destination).reports := by
  cases accept : Target.accept target with
  | ok t =>
    have acceptable := (Target.accept_eq_ok_iff.mp accept).2
    rw [generateEditor_of_accept accept]
    exact (Generation.told_acceptedReports t).append
      (Generation.aside_render_built acceptable destination).told
  | error refusal =>
    rw [generateEditor_of_refuse accept]
    exact (Generation.aside_refusedReports refusal).told

theorem notices_generateEditor_of_accept {target : Option Target} {t : Target}
    (accept : Target.accept target = .ok t) (destination : Destination) :
    Report.notices (generateEditor target destination).reports = t.unsupported := by
  have acceptable := (Target.accept_eq_ok_iff.mp accept).2
  rw [generateEditor_of_accept accept]
  show Report.notices (_ ++ _) = _
  rw [Report.notices_append, Generation.notices_acceptedReports,
    (Generation.aside_render_built acceptable destination).notices, List.append_nil]

theorem notices_generateEditor_of_refuse {target : Option Target} {refusal : Refusal}
    (refuse : Target.accept target = .error refusal) (destination : Destination) :
    Report.notices (generateEditor target destination).reports = [] := by
  rw [generateEditor_of_refuse refuse]
  exact (Generation.aside_refusedReports refusal).notices

/-! ## The law -/

/-- What comes of a whole request to whom: the answer to the caller, the notices that
the sink then holds, and the messages that the listener heard. -/
structure Delivery where
  answer : Except Failure (Option Source)
  held : List Notice
  heard : List Message

/-- The delivery of the editor of a target for a destination, with a sink in which
some notices were found and a listener behind a threshold. -/
def deliver (sink : Sink) (found : List Notice) (threshold : Level) (target : Option Target)
    (destination : Destination) : Delivery :=
  let outcome := generateEditor target destination
  let reception := outcome.reports.foldl (Reception.receive sink) ⟨found, []⟩
  ⟨outcome.answer, reception.held,
    ((Channel.listening threshold).emitAll reception.events).2.map (·.message)⟩

theorem deliver_eq (sink : Sink) (found : List Notice) (threshold : Level)
    (target : Option Target) (destination : Destination) :
    deliver sink found threshold target destination =
      let outcome := generateEditor target destination
      ⟨outcome.answer, found ++ Report.held sink outcome.reports,
        ((Channel.listening threshold).emitAll (Report.events sink outcome.reports)).2.map
          (·.message)⟩ := by
  simp only [deliver, Reception.foldl_receive, List.nil_append]

/-- A caller that collects the notices and one that has them forwarded get the same
answer and learn of the same annotations. -/
theorem generateEditor_notices (target : Option Target) (destination : Destination)
    (found : List Notice) :
    ∃ notices,
      (∀ t, target = some t → (Generation.build (some t) .initial).answer = .ok () →
        notices = t.unsupported) ∧
      (∀ failure, (Generation.build target .initial).answer = .error failure → notices = []) ∧
      ∀ threshold,
        (deliver .collecting found threshold target destination).answer =
          (deliver .forwarding [] threshold target destination).answer ∧
        (deliver .collecting found threshold target destination).held = found ++ notices ∧
        (threshold.passes .warn →
          (deliver .forwarding [] threshold target destination).heard.filter (·.isNotice) =
            notices.map noticeMessage) ∧
        (threshold.passes .debug →
          Paired (deliver .forwarding [] threshold target destination).heard notices) := by
  have told := told_generateEditor target destination
  refine ⟨Report.notices (generateEditor target destination).reports, ?_, ?_, fun threshold => ?_⟩
  · rintro t rfl accepted
    exact notices_generateEditor_of_accept (Target.acceptable_of_build accepted).accept destination
  · intro failure failed
    cases accept : Target.accept target with
    | ok t =>
      rw [Generation.build_of_accept rfl accept] at failed
      cases failed
    | error refusal => exact notices_generateEditor_of_refuse accept destination
  · rw [deliver_eq, deliver_eq]
    exact ⟨rfl, rfl, told.warned threshold, told.paired threshold⟩

/-- A target with annotations that have no generated form, some of them on a field
that is not selected. -/
def Target.lantern : Target where
  name := "Lantern"
  scope := some "Game"
  lineage := ["MonoBehaviour"]
  fields :=
    [⟨"label", "string", .isPublic,
      [.deferred .multiline, .header "Words", .unrecognized "localized"]⟩,
    ⟨"cache", "string", .nonPublic, [.deferred .textArea]⟩,
    ⟨"m_oil", "int", .nonPublic, [.serializeMarker, .deferred .minimum]⟩]

theorem generateEditor_notices_lantern :
    (Generation.build (some Target.lantern) .initial).answer = .ok () ∧
    ∃ notices, notices =
        [⟨"label", "multiline"⟩, ⟨"label", "localized"⟩, ⟨"m_oil", "min"⟩] ∧
      (deliver .collecting [⟨"wick", "delayed"⟩] .debug (some Target.lantern) .cancelled).held =
        ⟨"wick", "delayed"⟩ :: notices ∧
      (deliver .forwarding [] .warn (some Target.lantern) .cancelled).heard.filter (·.isNotice) =
        notices.map noticeMessage ∧
      Paired (deliver .forwarding [] .debug (some Target.lantern) .cancelled).heard notices := by
  have accepted : (Generation.build (some Target.lantern) .initial).answer = .ok () := rfl
  obtain ⟨notices, all, _, agree⟩ :=
    generateEditor_notices (some Target.lantern) .cancelled [⟨"wick", "delayed"⟩]
  obtain ⟨_, held, _, paired⟩ := agree .debug
  obtain ⟨_, _, warned, _⟩ := agree .warn
  refine ⟨accepted, notices, all _ rfl accepted, held, warned rfl, paired rfl⟩

end Inspector
