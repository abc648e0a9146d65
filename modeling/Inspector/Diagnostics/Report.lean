import Inspector.Diagnostics.Event
import Inspector.Notice

/-!
# Reports

What an operation says while it runs: diagnostic events, and notices for the
sink that its caller supplied. The reports of an operation are part of its
answer, in the order in which they arise. Whoever listens filters them
afterwards, so that listening cannot change what an operation does.

There are two sinks. One collects the notices; the other turns each of them
into an event of its own.
-/

namespace Inspector.Diagnostics

/-- One report of a running operation. -/
inductive Report where
  | event (e : Event)
  | notice (n : Notice)

/-- The event that stands for a notice when nobody collects it. -/
def noticeEvent (n : Notice) : Event :=
  .of .warn "editorgen::notice" n.text [("field", .shown n.field), ("kind", .shown n.kind)]

/-- Where the notices of an operation go. -/
inductive Sink where
  | collecting
  | forwarding
deriving DecidableEq

namespace Report

/-- The notices among some reports, in order. -/
def notices (reports : List Report) : List Notice :=
  reports.filterMap fun
    | notice n => some n
    | event _ => none

/-- The events that some reports come to with a sink, in order. -/
def events (sink : Sink) (reports : List Report) : List Event :=
  reports.filterMap fun
    | event e => some e
    | notice n =>
      match sink with
      | .collecting => none
      | .forwarding => some (noticeEvent n)

/-- The notices that a sink holds in the end. -/
def held (sink : Sink) (reports : List Report) : List Notice :=
  match sink with
  | .collecting => notices reports
  | .forwarding => []

end Report

/-- The events that pass a threshold. -/
def heardAt (threshold : Level) (events : List Event) : List Event :=
  events.filter fun e => threshold.passes e.level

end Inspector.Diagnostics
