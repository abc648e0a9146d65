import Inspector.Diagnostics.Report
import Inspector.Proofs.Diagnostics.Exchange
import Inspector.Proofs.Diagnostics.Lines

/-!
# Reports delivered

What becomes of the reports of an operation as they arise, one after the other. A
collecting sink takes each notice behind those it has; a forwarding sink turns each
into an event. Every event goes to the channel of the host, where a listener that
only takes note hears it if its level passes.

Taken together this is what the whole list of reports comes to: a sink holds what it
held and then the notices (`foldl_receive`), and the listener hears one message for
each event that passes, in order (`messages_eq`). So what is heard of two lists of
reports is what is heard of the one and then of the other (`messages_append`), which is
how everything that is said of the messages of an operation is put together.

Events are found again by their words. No forwarded notice has the words of an event
that begins in another way than the notices do (`filter_seen_eq_nil`).

The line of an event is its message and then its other values by name, each behind a
space (`Transcript.line_of`).
-/

namespace Inspector.Diagnostics

/-! ## Sinks -/

/-- What a sink holds, and the events so far. -/
structure Reception where
  held : List Notice
  events : List Event

namespace Reception

/-- Takes in one report. -/
def receive (sink : Sink) (r : Reception) : Report → Reception
  | .event e => { r with events := r.events ++ [e] }
  | .notice n =>
    match sink with
    | .collecting => { r with held := r.held ++ [n] }
    | .forwarding => { r with events := r.events ++ [noticeEvent n] }

/-- A sink ends up with what it held and the notices it keeps, and the events are
those of the reports with this sink. -/
theorem foldl_receive (sink : Sink) (r : Reception) (reports : List Report) :
    reports.foldl (receive sink) r =
      ⟨r.held ++ Report.held sink reports, r.events ++ Report.events sink reports⟩ := by
  induction reports generalizing r with
  | nil => cases sink <;> simp [Report.held, Report.notices, Report.events]
  | cons report rest ih =>
    rw [List.foldl_cons, ih]
    cases report <;> cases sink <;>
      simp [receive, Report.held, Report.notices, Report.events]

end Reception

/-! ## Listening -/

namespace Channel

theorem emit_listening (threshold : Level) (e : Event) : (listening threshold).emit e =
    (listening threshold, if threshold.passes e.level then [⟨threshold, e.message⟩] else []) := by
  have comes : Exchange.ComesTo ⟨listening threshold, [.emit e], []⟩ ⟨listening threshold, [],
      if threshold.passes e.level then [⟨threshold, e.message⟩] else []⟩ := by
    cases passes : threshold.passes e.level with
    | true =>
      -- the event becomes a message, and the message is heard
      refine .head (.head (.of_eq ?_))
      simp [Exchange.step, Exchange.perform, isEnabled, listening, passes, Event.message,
        Listener.passive, Listener.react]
    | false =>
      refine .head (.of_eq ?_)
      simp [Exchange.step, Exchange.perform, isEnabled, listening, passes]
  rw [emit, act, comes.settle rfl]

theorem emitAll_listening (threshold : Level) (events : List Event) :
    (listening threshold).emitAll events = (listening threshold,
      (heardAt threshold events).map fun e => ⟨threshold, e.message⟩) := by
  induction events with
  | nil => rfl
  | cons e rest ih =>
    rw [emitAll, emit_listening]
    cases passes : threshold.passes e.level <;> simp [ih, heardAt, passes]

end Channel

/-- The events that pass a threshold while some reports go to a sink. -/
def seen (sink : Sink) (threshold : Level) (reports : List Report) : List Event :=
  heardAt threshold (Report.events sink reports)

theorem seen_append (sink : Sink) (threshold : Level) (reports more : List Report) :
    seen sink threshold (reports ++ more) =
      seen sink threshold reports ++ seen sink threshold more := by
  simp [seen, heardAt, Report.events]

/-- Events that pass are all seen, whatever the sink is. -/
theorem seen_events {sink : Sink} {threshold : Level} (events : List Event)
    (pass : ∀ e ∈ events, threshold.passes e.level) :
    seen sink threshold (events.map .event) = events := by
  have own : Report.events sink (events.map .event) = events := by
    rw [Report.events, List.filterMap_map]
    exact List.filterMap_some
  rw [seen, own, heardAt, List.filter_eq_self.mpr pass]

/-- The messages that a listener behind a threshold hears while some reports go to a sink. -/
def messages (sink : Sink) (threshold : Level) (reports : List Report) : List Message :=
  ((Channel.listening threshold).emitAll (Report.events sink reports)).2.map (·.message)

/-- The listener hears one message for each event that passes. -/
theorem messages_eq (sink : Sink) (threshold : Level) (reports : List Report) :
    messages sink threshold reports = (seen sink threshold reports).map (·.message) := by
  rw [messages, Channel.emitAll_listening, List.map_map]
  rfl

theorem messages_append (sink : Sink) (threshold : Level) (reports more : List Report) :
    messages sink threshold (reports ++ more) =
      messages sink threshold reports ++ messages sink threshold more := by
  simp only [messages_eq, seen_append, List.map_append]

theorem Report.notices_append (reports more : List Report) :
    notices (reports ++ more) = notices reports ++ notices more := by
  simp [notices]

theorem Report.notices_flatMap {α : Type} (xs : List α) (reports : α → List Report) :
    notices (xs.flatMap reports) = xs.flatMap fun x => notices (reports x) := by
  simp [notices, List.filterMap_flatMap]

/-! ## Words -/

/-- Whether an event has just these words for its message. -/
def Event.tells (e : Event) (words : String) : Bool :=
  (e.values.lookup messageName).any (·.plain == words)

theorem Event.tells_of (level : Level) (origin message : String)
    (values : List (String × Recorded)) (words : String) :
    (Event.of level origin message values).tells words = (message == words) := rfl

/-- A forwarded notice speaks of an annotation, and begins so. -/
theorem tells_noticeEvent (n : Notice) {words : String}
    (other : words.toList.head? ≠ some 'a') : (noticeEvent n).tells words = false := by
  have start : n.text.toList.head? = some 'a' := by
    change ("annotation '" ++ n.kind ++ "' on field '" ++ n.field ++
      "' is not supported yet").toList.head? = _
    simp
  have apart : n.text ≠ words := by
    rintro rfl
    exact other start
  exact beq_false_of_ne apart

/-- Where no event has some words, no event that the reports come to has them. -/
theorem not_tells_of_mem_events {sink : Sink} {words : String}
    (other : words.toList.head? ≠ some 'a') {reports : List Report}
    (silent : ∀ e, .event e ∈ reports → e.tells words = false) {e : Event}
    (mem : e ∈ Report.events sink reports) : e.tells words = false := by
  obtain ⟨report, there, own⟩ := List.mem_filterMap.mp mem
  cases report with
  | event e' =>
    cases own
    exact silent e there
  | notice n =>
    cases sink <;> cases own
    exact tells_noticeEvent n other

theorem filter_seen_eq_nil (sink : Sink) (threshold : Level) {words : String}
    (other : words.toList.head? ≠ some 'a') {reports : List Report}
    (silent : ∀ e, .event e ∈ reports → e.tells words = false) :
    (seen sink threshold reports).filter (·.tells words) = [] := by
  refine List.filter_eq_nil_iff.mpr fun e mem => ?_
  rw [Bool.not_eq_true]
  exact not_tells_of_mem_events other silent (List.mem_filter.mp mem).1

/-! ## Lines -/

namespace Transcript

/-- Values by name, each behind a space. -/
def items (values : List (String × String)) : String :=
  values.foldr (fun value rest => " " ++ (value.1 ++ "=" ++ value.2) ++ rest) ""

theorem intercalate_cons_eq (text : String) (values : List (String × String)) :
    " ".intercalate (text :: values.map fun value => value.1 ++ "=" ++ value.2) =
      text ++ items values := by
  induction values generalizing text with
  | nil => simp [items]
  | cons value rest ih =>
    rw [List.map_cons, String.intercalate_cons_cons, ih]
    simp [items, String.append_assoc]

theorem line_of {message : String} (given : message ≠ "") {values : List (String × String)}
    (other : ∀ value ∈ values, value.1 ≠ messageName) :
    line ((messageName, message) :: values) = message ++ items values := by
  have last : lastMessage? ((messageName, message) :: values) = some message := by
    have silent : values.filter (·.1 = messageName) = [] :=
      List.filter_eq_nil_iff.mpr fun value mem => by simpa using other value mem
    simp [lastMessage?, silent]
  have rest : named ((messageName, message) :: values) =
      values.map fun value => value.1 ++ "=" ++ value.2 := by
    have all : values.filter (·.1 ≠ messageName) = values :=
      List.filter_eq_self.mpr fun value mem => by simpa using other value mem
    rw [named, List.filter_cons_of_neg (by simp), all]
  have cut : pieces ((messageName, message) :: values) =
      message :: values.map fun value => value.1 ++ "=" ++ value.2 := by
    simp [pieces, last, rest, given]
  rw [line_eq, cut, intercalate_cons_eq]

end Transcript

theorem Event.line_of {level : Level} {origin message : String} (given : message ≠ "")
    {values : List (String × Recorded)} (other : ∀ value ∈ values, value.1 ≠ messageName) :
    (Event.of level origin message values).line =
      message ++ Transcript.items (values.map fun value => (value.1, value.2.plain)) := by
  rw [line, Event.of, List.map_cons]
  refine Transcript.line_of given fun value mem => ?_
  obtain ⟨own, known, rfl⟩ := List.mem_map.mp mem
  exact other own known

end Inspector.Diagnostics
