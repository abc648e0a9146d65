import Inspector.Proofs.Editor.Names

/-!
# Sessions

A session is one request with whatever its caller does to it: builds and renders
in any order, with any arguments, as often as the caller likes. What has been
reported so far belongs to the session; the notices among it are what a
collecting sink has received.

What a call does to a settled request is one of five things (`Call.Happens`).
A settled request is in one of five phases, holds an editor exactly if it is
built, and holds only editors that can be rendered. A fresh request is settled,
every call leaves it so, and so does every sequence of calls (`Session.settled`).

**The law** (`Session.lawful`): at every point of a session an editor is held
exactly in the built phase, the final phases are never left, and a call is
answered with a wrong state exactly if it comes in another phase than its own.
Such a call changes nothing.
-/

namespace Inspector

open CSharp Diagnostics

/-! ## Calls -/

/-- What the caller of a request may do. -/
inductive Call where
  | build (target : Option Target)
  | render (destination : Destination)

namespace Call

/-- The phase in which a call may come. -/
def phase : Call → Phase
  | build _ => .idle
  | render _ => .built

/-- The step of a call. Only rendering has a source to answer. -/
def run : Call → Step (Option Source)
  | build target => do
    Generation.build target
    return none
  | render destination => Generation.render destination

theorem run_build {target : Option Target} {g after : Generation} {answer : Except Failure Unit}
    {reports : List Report} (h : Generation.build target g = ⟨after, answer, reports⟩) :
    (build target).run g = ⟨after, answer.map fun _ => none, reports⟩ := by
  change Step.andThen (Generation.build target) _ g = _
  rw [Step.andThen, h]
  cases answer with
  | error failure => rfl
  | ok _ =>
    change Outcome.after ⟨after, .ok none, []⟩ reports = _
    rw [Outcome.after, List.append_nil]
    rfl

open Generation in
/-- What a call may come to. -/
inductive Happens (g : Generation) : Call → Outcome (Option Source) → Prop
  /-- The call comes in another phase than its own: it is refused. -/
  | untimely {c : Call} (other : g.phase ≠ c.phase) :
    Happens g c ⟨g, .error (.refused (.invalidState c.phase g.phase)), []⟩
  /-- The target is accepted: its editor is kept. -/
  | accepted {target : Option Target} {t : Target} (idle : g.phase = .idle)
    (accept : Target.accept target = .ok t) :
    Happens g (build target) ⟨.built t, .ok none, acceptedReports t⟩
  /-- The target is refused. -/
  | refused {target : Option Target} {refusal : Refusal} (idle : g.phase = .idle)
    (accept : Target.accept target = .error refusal) :
    Happens g (build target)
      ⟨{ g with phase := .failed }, .error (.refused refusal), refusedReports refusal⟩
  /-- The editor is rendered. -/
  | rendered {destination : Destination} {unit : CompilationUnit} {path text : String}
    (built : g.phase = .built) (held : g.held = some unit) (whole : unit.render = .ok text)
    (given : destination.path? (Naming.sourceFile g.typeName) = some path) :
    Happens g (render destination)
      ⟨{ g with phase := .rendered, held := none, annotated := [] },
        .ok (some (g.source text path)), renderedReports path text⟩
  /-- The destination was dismissed: the editor is dropped. -/
  | dismissed {destination : Destination} {unit : CompilationUnit} (built : g.phase = .built)
    (held : g.held = some unit)
    (missing : destination.path? (Naming.sourceFile g.typeName) = none) :
    Happens g (render destination)
      ⟨{ g with phase := .cancelled, held := none }, .ok none, cancelledReports g.typeName⟩

end Call

/-! ## Settled requests -/

/-- A request as its caller may find it. -/
structure Generation.Settled (g : Generation) : Prop where
  phase : g.phase ∈ [Phase.idle, .built, .rendered, .cancelled, .failed]
  held : g.held.isSome ↔ g.phase = .built
  whole : ∀ unit, g.held = some unit → ∃ text, unit.render = .ok text

namespace Call

open Generation

theorem run_untimely {g : Generation} {c : Call} (other : g.phase ≠ c.phase) :
    c.run g = ⟨g, .error (.refused (.invalidState c.phase g.phase)), []⟩ := by
  cases c with
  | build target => rw [run_build (build_of_busy other)]; rfl
  | render destination => exact render_of_unbuilt other

/-- A call to a settled request comes to one of five things. -/
theorem happens {g : Generation} (settled : g.Settled) (c : Call) : c.Happens g (c.run g) := by
  by_cases timely : g.phase = c.phase
  · cases c with
    | build target =>
      cases accept : Target.accept target with
      | ok t =>
        rw [run_build (build_of_accept timely accept)]
        exact .accepted timely accept
      | error refusal =>
        rw [run_build (build_of_refuse timely accept)]
        exact .refused timely accept
    | render destination =>
      obtain ⟨unit, held⟩ := Option.isSome_iff_exists.mp (settled.held.mpr timely)
      obtain ⟨text, whole⟩ := settled.whole unit held
      cases given : destination.path? (Naming.sourceFile g.typeName) with
      | some path =>
        rw [run, render_of_path timely held whole given]
        exact .rendered timely held whole given
      | none =>
        rw [run, render_of_dismissed timely held given]
        exact .dismissed timely held given
  · rw [run_untimely timely]
    exact .untimely timely

end Call

namespace Generation

theorem settled_initial : initial.Settled where
  phase := by decide
  held := by decide
  whole := by
    intro unit held
    cases held

/-- A request without an editor is settled in every phase but the passing ones and
the built one. -/
theorem settled_of_none {g : Generation} (held : g.held = none)
    (phase : g.phase ∈ [Phase.idle, .rendered, .cancelled, .failed]) : g.Settled where
  phase := by
    revert phase
    cases g.phase <;> decide
  held := by
    rw [held]
    revert phase
    cases g.phase <;> decide
  whole := by
    intro unit same
    rw [held] at same
    cases same

/-- The editor of an accepted target can be rendered: its names are in order. -/
theorem settled_built {target : Option Target} {t : Target} (h : Target.accept target = .ok t) :
    (built t).Settled where
  phase := by simp [built]
  held := by simp [built]
  whole := by
    intro unit held
    cases held
    have acceptable := (Target.accept_eq_ok_iff.mp h).2
    exact ⟨_, CompilationUnit.render_of_wellNamed acceptable.wellNamed_editor⟩

/-- A call leaves a settled request settled. -/
theorem Settled.run {g : Generation} (settled : g.Settled) (c : Call) :
    (c.run g).request.Settled := by
  have happens := c.happens settled
  generalize c.run g = outcome at happens
  cases happens with
  | untimely => exact settled
  | accepted _ accept => exact settled_built accept
  | refused idle =>
    refine settled_of_none ?_ (by simp)
    have none : ¬g.held.isSome := fun some => by
      rw [settled.held.mp some] at idle
      cases idle
    simpa using none
  | rendered => exact settled_of_none rfl (by simp)
  | dismissed => exact settled_of_none rfl (by simp)

end Generation

/-! ## Sessions -/

/-- A request and what it has reported. -/
structure Session where
  request : Generation
  reports : List Report

namespace Session

/-- A session with a fresh request. -/
def fresh : Session := ⟨.initial, []⟩

/-- The notices that a collecting sink has received. -/
def notices (s : Session) : List Notice :=
  Report.notices s.reports

/-- The answer to a call. -/
def answer (s : Session) (c : Call) : Except Failure (Option Source) :=
  (c.run s.request).answer

/-- The session after a call. -/
def after (s : Session) (c : Call) : Session :=
  ⟨(c.run s.request).request, s.reports ++ (c.run s.request).reports⟩

/-- The session after some calls. -/
def play (s : Session) (calls : List Call) : Session :=
  calls.foldl after s

theorem play_cons (s : Session) (c : Call) (calls : List Call) :
    s.play (c :: calls) = (s.after c).play calls := rfl

theorem play_append (s : Session) (calls more : List Call) :
    s.play (calls ++ more) = (s.play calls).play more :=
  List.foldl_append

/-- A call in another phase than its own changes nothing. -/
theorem after_untimely {s : Session} {c : Call} (other : s.request.phase ≠ c.phase) :
    s.after c = s := by
  rw [after, Call.run_untimely other, List.append_nil]

theorem play_untimely {s : Session} {calls : List Call}
    (other : ∀ c ∈ calls, s.request.phase ≠ c.phase) : s.play calls = s := by
  induction calls with
  | nil => rfl
  | cons c calls ih =>
    rw [play_cons, after_untimely (other c List.mem_cons_self)]
    exact ih fun c mem => other c (List.mem_cons_of_mem _ mem)

theorem untimely_of_final {phase : Phase} (final : phase ∈ [Phase.rendered, .cancelled, .failed])
    (c : Call) : phase ≠ c.phase := by
  rintro rfl
  cases c with
  | build => exact absurd final (by simp [Call.phase])
  | render => exact absurd final (by simp [Call.phase])

theorem settled_play {s : Session} (settled : s.request.Settled) (calls : List Call) :
    (s.play calls).request.Settled := by
  induction calls generalizing s with
  | nil => exact settled
  | cons c calls ih => exact ih (settled.run c)

/-- At every point of a session the request is settled. -/
theorem settled (calls : List Call) : (fresh.play calls).request.Settled :=
  settled_play Generation.settled_initial calls

/-! ## The law -/

/-- What is always true of a session. -/
structure Lawful (s : Session) : Prop where
  /-- The two passing phases are never seen. -/
  phase : s.request.phase ∈ [Phase.idle, .built, .rendered, .cancelled, .failed]
  /-- An editor is held exactly in the built phase. -/
  held : s.request.held.isSome ↔ s.request.phase = .built
  /-- The final phases are never left. -/
  final : s.request.phase ∈ [Phase.rendered, .cancelled, .failed] →
    ∀ calls, (s.play calls).request.phase = s.request.phase
  /-- A wrong state is answered exactly if the phase is another one, and it is
  answered with the two phases. -/
  untimely : ∀ (c : Call) (expected actual : Phase),
    s.answer c = .error (.refused (.invalidState expected actual)) ↔
      s.request.phase ≠ c.phase ∧ expected = c.phase ∧ actual = s.request.phase
  /-- A call that is answered with a wrong state changes nothing. -/
  unchanged : ∀ (c : Call) (expected actual : Phase),
    s.answer c = .error (.refused (.invalidState expected actual)) → s.after c = s

end Session

/-- A target is never refused over the phase of a request. -/
theorem Target.accept_ne_invalidState {target : Option Target} {expected actual : Phase} :
    Target.accept target ≠ .error (.invalidState expected actual) := by
  intro h
  cases target with
  | none => cases h
  | some t =>
    rw [accept] at h
    split at h
    · split at h <;> cases h
    · cases h

namespace Session

theorem answer_invalidState_iff {s : Session} (settled : s.request.Settled) (c : Call)
    (expected actual : Phase) :
    s.answer c = .error (.refused (.invalidState expected actual)) ↔
      s.request.phase ≠ c.phase ∧ expected = c.phase ∧ actual = s.request.phase := by
  constructor
  · intro h
    rw [answer] at h
    have happens := c.happens settled
    generalize c.run s.request = outcome at happens h
    cases happens with
    | untimely other =>
      cases h
      exact ⟨other, rfl, rfl⟩
    | refused _ accept =>
      cases h
      exact (Target.accept_ne_invalidState accept).elim
    | accepted | rendered | dismissed => cases h
  · rintro ⟨other, rfl, rfl⟩
    rw [answer, Call.run_untimely other]

/-- Every point of every session is lawful. -/
theorem lawful (calls : List Call) : (fresh.play calls).Lawful where
  phase := (settled calls).phase
  held := (settled calls).held
  final := by
    intro final more
    rw [play_untimely fun c _ => untimely_of_final final c]
  untimely := answer_invalidState_iff (settled calls)
  unchanged := by
    intro c expected actual h
    exact after_untimely ((answer_invalidState_iff (settled calls) c expected actual).mp h).1

/-- A session in which every other call comes too early or too late. -/
def stumbling : List Call :=
  [.render .cancelled, .build (some ⟨"Torch", none, ["MonoBehaviour"],
      [⟨"heat", "float", .isPublic, [.unrecognized "warm"]⟩]⟩),
    .build none, .render (.file "Torch.cs"), .render .cancelled]

theorem lawful_stumbling :
    (fresh.play stumbling).request.phase = .rendered ∧
    (∀ calls, ((fresh.play stumbling).play calls).request.phase = .rendered) ∧
    (fresh.play stumbling).answer (.build none) =
      .error (.refused (.invalidState .idle .rendered)) ∧
    (fresh.play stumbling).after (.build none) = fresh.play stumbling := by
  have ended : (fresh.play stumbling).request.phase = .rendered := rfl
  have lawful := lawful stumbling
  have refused := (lawful.untimely (.build none) .idle .rendered).mpr
    ⟨by rw [ended]; decide, rfl, ended.symm⟩
  refine ⟨ended, fun calls => ?_, refused, lawful.unchanged _ _ _ refused⟩
  rw [lawful.final (by rw [ended]; decide), ended]

end Session

end Inspector
