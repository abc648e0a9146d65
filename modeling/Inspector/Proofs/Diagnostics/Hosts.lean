import Inspector.Generation
import Inspector.Proofs.Diagnostics.Delivery

/-!
# Operations before a host

An operation may run before a host: the reports come to the host as they arise, a notice to
the sink and an event to the channel, and what the listener does to the channel then is done
before the operation goes on. So a host is told of the first part of an operation before the
second one begins (`Step.before_andThen`), and one part may find another channel than the
part before it.

For all that the host has no say in the operation. Whatever its channel is, it is told the
same, and the request, the answer and the notices are the same (`Step.before_eq`). What its
listener hears behind a threshold is what it would hear behind the lowest one, less what does
not pass (`Step.heard_eq_filter`).
-/

namespace Inspector.Diagnostics

/-! ## Thresholds -/

/-- Behind a threshold a lower one makes no difference. -/
theorem heardAt_heardAt {lower threshold : Level} (le : lower.severity ≤ threshold.severity)
    (events : List Event) :
    heardAt threshold (heardAt lower events) = heardAt threshold events := by
  rw [heardAt, heardAt, heardAt, List.filter_filter]
  refine List.filter_congr fun e _ => ?_
  rw [Bool.eq_iff_iff, Bool.and_eq_true, and_iff_left_iff_imp, Level.passes_iff, Level.passes_iff]
  exact And.imp_left (Nat.le_trans le)

theorem heardAt_off (events : List Event) : heardAt .off events = [] := by
  refine List.filter_eq_nil_iff.mpr fun e _ => ?_
  rw [Level.passes_iff]
  rintro ⟨le, proper⟩
  revert le proper
  cases e.level <;> decide

/-- What passes a threshold is what passes the lowest one, as far as it is severe enough. -/
theorem heardAt_eq_filter (threshold : Level) (events : List Event) : heardAt threshold events =
    (heardAt .trace events).filter fun e => threshold.severity ≤ e.level.severity := by
  rw [heardAt, heardAt, List.filter_filter]
  refine List.filter_congr fun e _ => ?_
  rw [Bool.eq_iff_iff, Bool.and_eq_true, Level.passes_iff, Level.passes_iff, decide_eq_true_eq]
  exact and_congr_right fun _ => (and_iff_right (Nat.zero_le _)).symm

/-! ## Hosts -/

/-- A host: its channel, the notices that its sink holds, and the calls of its listener. -/
structure Host where
  channel : Channel
  held : List Notice
  calls : List Call

namespace Host

/-- Passes an event on to the channel. -/
def emit (h : Host) (e : Event) : Host :=
  { h with channel := (h.channel.emit e).1, calls := h.calls ++ (h.channel.emit e).2 }

/-- Takes in one report. -/
def receive (sink : Sink) (h : Host) : Report → Host
  | .event e => h.emit e
  | .notice n =>
    match sink with
    | .collecting => { h with held := h.held ++ [n] }
    | .forwarding => h.emit (noticeEvent n)

/-- A host ends up with the notices that its sink keeps, behind those it had, and with the
calls that the events come to on its channel. -/
theorem foldl_receive (sink : Sink) (h : Host) (reports : List Report) :
    reports.foldl (receive sink) h =
      ⟨(h.channel.emitAll (Report.events sink reports)).1, h.held ++ Report.held sink reports,
        h.calls ++ (h.channel.emitAll (Report.events sink reports)).2⟩ := by
  induction reports generalizing h with
  | nil => cases sink <;> simp [Report.held, Report.notices, Report.events, Channel.emitAll]
  | cons report rest ih =>
    rw [List.foldl_cons, ih]
    cases report <;> cases sink <;>
      simp [receive, emit, Report.held, Report.notices, Report.events, Channel.emitAll]

end Host

end Inspector.Diagnostics

namespace Inspector

open Diagnostics

/-! ## Operations -/

/-- The end of an operation that ran before a host. -/
structure Attended (α : Type) where
  request : Generation
  answer : Except Failure α
  host : Host

namespace Step

variable {α β : Type}

/-- Runs an operation before a host. -/
def before (sink : Sink) (s : Step α) (g : Generation) (h : Host) : Attended α :=
  ⟨(s g).request, (s g).answer, (s g).reports.foldl (Host.receive sink) h⟩

/-- Before a host, an operation that goes on finds it as the first part has left it. -/
theorem before_andThen (sink : Sink) (s : Step α) (next : α → Step β) (g : Generation)
    (h : Host) : (s >>= next).before sink g h =
      match s.before sink g h with
      | ⟨after, .error failure, host⟩ => ⟨after, .error failure, host⟩
      | ⟨after, .ok a, host⟩ => (next a).before sink after host := by
  change (s.andThen next).before sink g h = _
  unfold before andThen
  obtain ⟨after, answer, reports⟩ := s g
  cases answer with
  | error failure => rfl
  | ok a => simp [Outcome.after, List.foldl_append]

theorem before_eq (sink : Sink) (s : Step α) (g : Generation) (h : Host) :
    s.before sink g h = ⟨(s g).request, (s g).answer,
      (h.channel.emitAll (Report.events sink (s g).reports)).1,
      h.held ++ Report.held sink (s g).reports,
      h.calls ++ (h.channel.emitAll (Report.events sink (s g).reports)).2⟩ := by
  rw [before, Host.foldl_receive]

/-- What a listener behind a threshold hears of an operation. -/
def heard (sink : Sink) (s : Step α) (g : Generation) (threshold : Level) : List Message :=
  (s.before sink g ⟨.listening threshold, [], []⟩).host.calls.map (·.message)

theorem heard_eq (sink : Sink) (s : Step α) (g : Generation) (threshold : Level) :
    s.heard sink g threshold = messages sink threshold (s g).reports := by
  rw [heard, before_eq, List.nil_append]
  rfl

/-- A listener hears what it would hear behind the lowest threshold, as far as it is severe
enough. -/
theorem heard_eq_filter (sink : Sink) (s : Step α) (g : Generation) (threshold : Level) :
    s.heard sink g threshold =
      (s.heard sink g .trace).filter fun m => threshold.severity ≤ m.level.severity := by
  rw [heard_eq, heard_eq, messages_eq, messages_eq, seen, seen, heardAt_eq_filter, List.filter_map]
  rfl

theorem heard_off (sink : Sink) (s : Step α) (g : Generation) : s.heard sink g .off = [] := by
  rw [heard_eq, messages_eq, seen, heardAt_off, List.map_nil]

/-- What a host has no say in, and what it hears. -/
structure Unmoved (sink : Sink) (s : Step α) (g : Generation) : Prop where
  /-- Whatever the channel is, the operation comes to the same, and the sink to the same
  notices. -/
  result : ∀ (found : List Notice) (channel other : Channel),
    (s.before sink g ⟨channel, found, []⟩).request = (s.before sink g ⟨other, found, []⟩).request ∧
    (s.before sink g ⟨channel, found, []⟩).answer = (s.before sink g ⟨other, found, []⟩).answer ∧
    (s.before sink g ⟨channel, found, []⟩).host.held =
      (s.before sink g ⟨other, found, []⟩).host.held
  /-- Behind a threshold is heard what is heard behind the lowest one and is severe enough. -/
  heard : ∀ threshold : Level, s.heard sink g threshold =
    (s.heard sink g .trace).filter fun m => threshold.severity ≤ m.level.severity
  /-- Behind the highest one nothing is heard. -/
  silent : s.heard sink g .off = []

theorem unmoved (sink : Sink) (s : Step α) (g : Generation) : s.Unmoved sink g where
  result := by
    intro found channel other
    rw [before_eq, before_eq]
    exact ⟨rfl, rfl, rfl⟩
  heard := s.heard_eq_filter sink g
  silent := s.heard_off sink g

end Step

end Inspector
