import Inspector.Proofs.Generation.Session

/-!
# Sessions and the one-shot path

However the calls of a session are interleaved, at most two of them are in time:
the first build, and after an accepted target the first render behind it. All
others come in another phase than their own and change nothing. So a session is
cut at these two calls, and what is left of it is the one-shot path
(`Session.one_shot`).

**The law** (`Session.one_source`): at most one call of a session answers with
source, and that source is what the one-shot path answers for the target of the
first build and the destination of the first render behind it. The notices of
the session are those of the one-shot path.
-/

namespace Inspector

open CSharp Diagnostics

/-- The source in an answer, if there is one. -/
def source? (answer : Except Failure (Option Source)) : Option Source :=
  match answer with
  | .ok source => source
  | .error _ => none

theorem source?_eq_some_iff {answer : Except Failure (Option Source)} {source : Source} :
    source? answer = some source ↔ answer = .ok (some source) := by
  cases answer <;> simp [source?]

namespace Call

/-- Whether a call builds. -/
def isBuild : Call → Bool
  | build _ => true
  | render _ => false

theorem phase_of_not_isBuild {c : Call} (h : !c.isBuild) : c.phase = .built := by
  cases c with
  | build => cases h
  | render => rfl

theorem phase_of_isBuild {c : Call} (h : c.isBuild) : c.phase = .idle := by
  cases c with
  | build => rfl
  | render => cases h

theorem eq_build (c : Call) (h : c.isBuild) : ∃ target, c = build target := by
  cases c with
  | build target => exact ⟨target, rfl⟩
  | render => cases h

theorem eq_render (c : Call) (h : !c.isBuild) : ∃ destination, c = render destination := by
  cases c with
  | build => cases h
  | render destination => exact ⟨destination, rfl⟩

end Call

namespace Session

/-- The sources that some calls answer with. -/
def sources (s : Session) : List Call → List Source
  | [] => []
  | c :: calls => (source? (s.answer c)).toList ++ (s.after c).sources calls

theorem sources_append (s : Session) (calls more : List Call) :
    s.sources (calls ++ more) = s.sources calls ++ (s.play calls).sources more := by
  induction calls generalizing s with
  | nil => rfl
  | cons c calls ih => rw [List.cons_append, sources, sources, ih, play_cons, List.append_assoc]

theorem sources_untimely {s : Session} {calls : List Call}
    (other : ∀ c ∈ calls, s.request.phase ≠ c.phase) : s.sources calls = [] := by
  induction calls with
  | nil => rfl
  | cons c calls ih =>
    have first := other c List.mem_cons_self
    rw [sources, answer, Call.run_untimely first, after_untimely first]
    exact ih fun c mem => other c (List.mem_cons_of_mem _ mem)

/-! ## The calls in time -/

/-- Only a build is in time for a fresh session. -/
theorem untimely_fresh {calls : List Call} (h : ∀ c ∈ calls, !c.isBuild) :
    ∀ c ∈ calls, fresh.request.phase ≠ c.phase := by
  intro c mem
  rw [Call.phase_of_not_isBuild (h c mem)]
  exact (by decide : Phase.idle ≠ .built)

/-- The session after an accepted target. -/
def built (t : Target) : Session :=
  ⟨.built t, Generation.acceptedReports t⟩

theorem after_build_of_accept {target : Option Target} {t : Target}
    (accept : Target.accept target = .ok t) : fresh.after (.build target) = built t := by
  rw [after, Call.run_build (Generation.build_of_accept rfl accept)]
  rfl

/-- Only a render is in time behind an accepted target. -/
theorem untimely_built {t : Target} {calls : List Call} (h : ∀ c ∈ calls, c.isBuild) :
    ∀ c ∈ calls, (built t).request.phase ≠ c.phase := by
  intro c mem
  rw [Call.phase_of_isBuild (h c mem)]
  exact (by decide : Phase.built ≠ .idle)

/-- The session after a refused target. -/
def failed (refusal : Refusal) : Session :=
  ⟨{ Generation.initial with phase := .failed }, Generation.refusedReports refusal⟩

theorem after_build_of_refuse {target : Option Target} {refusal : Refusal}
    (accept : Target.accept target = .error refusal) :
    fresh.after (.build target) = failed refusal := by
  rw [after, Call.run_build (Generation.build_of_refuse rfl accept)]
  rfl

/-- No call answers a build with source. -/
theorem source?_answer_build (s : Session) (target : Option Target) :
    source? (s.answer (.build target)) = none := by
  cases built : Generation.build target s.request with
  | mk after result reports =>
    rw [answer, Call.run_build built]
    cases result <;> rfl

/-- Nothing is in time behind a refused target. -/
theorem untimely_failed (refusal : Refusal) (c : Call) :
    (failed refusal).request.phase ≠ c.phase :=
  untimely_of_final (by simp [failed]) c

/-- Nothing is in time behind the render of an accepted target. -/
theorem untimely_rendered {target : Option Target} {t : Target}
    (accept : Target.accept target = .ok t) (destination : Destination) (c : Call) :
    ((built t).after (.render destination)).request.phase ≠ c.phase := by
  have happens := (Call.render destination).happens (Generation.settled_built accept)
  refine untimely_of_final ?_ c
  change ((Call.render destination).run (.built t)).request.phase ∈ _
  generalize (Call.render destination).run (.built t) = outcome at happens
  cases happens with
  | untimely other => exact (other rfl).elim
  | rendered | dismissed => simp

/-! ## Whole sessions -/

variable {before between rest : List Call} {target : Option Target}

theorem sources_without_build {calls : List Call} (h : ∀ c ∈ calls, !c.isBuild) :
    fresh.sources calls = [] :=
  sources_untimely (untimely_fresh h)

/-- Up to the first build nothing happens. -/
theorem sources_from_build (h : ∀ c ∈ before, !c.isBuild) :
    fresh.sources (before ++ .build target :: rest) =
      (fresh.after (.build target)).sources rest := by
  rw [sources_append, sources_without_build h, play_untimely (untimely_fresh h), sources,
    source?_answer_build]
  rfl

theorem play_from_build (h : ∀ c ∈ before, !c.isBuild) :
    fresh.play (before ++ .build target :: rest) = (fresh.after (.build target)).play rest := by
  rw [play_append, play_untimely (untimely_fresh h), play_cons]

theorem sources_without_render (h : ∀ c ∈ before, !c.isBuild) (builds : ∀ c ∈ rest, c.isBuild) :
    fresh.sources (before ++ .build target :: rest) = [] := by
  rw [sources_from_build h]
  cases accept : Target.accept target with
  | ok t =>
    rw [after_build_of_accept accept]
    exact sources_untimely (untimely_built builds)
  | error refusal =>
    rw [after_build_of_refuse accept]
    exact sources_untimely fun c _ => untimely_failed refusal c

/-- A session that builds and then renders answers and reports what the one-shot
path does, whatever is called besides. -/
theorem one_shot (target : Option Target) (destination : Destination) (rest : List Call)
    (h : ∀ c ∈ before, !c.isBuild) (builds : ∀ c ∈ between, c.isBuild) :
    fresh.sources (before ++ .build target :: (between ++ .render destination :: rest)) =
        (source? (generateEditor target destination).answer).toList ∧
      (fresh.play (before ++ .build target :: (between ++ .render destination :: rest))).reports =
        (generateEditor target destination).reports := by
  rw [sources_from_build h, play_from_build h]
  cases accept : Target.accept target with
  | ok t =>
    have late := untimely_rendered accept destination
    rw [after_build_of_accept accept, sources_append, play_append,
      sources_untimely (untimely_built builds), play_untimely (untimely_built builds), sources,
      play_cons, sources_untimely fun c _ => late c, play_untimely fun c _ => late c,
      generateEditor_of_accept accept, List.append_nil]
    exact ⟨rfl, rfl⟩
  | error refusal =>
    have late := untimely_failed refusal
    rw [after_build_of_refuse accept, sources_untimely fun c _ => late c,
      play_untimely fun c _ => late c, generateEditor_of_refuse accept]
    exact ⟨rfl, rfl⟩

/-! ## The law -/

/-- At most one call of a session answers with source. If one does, it is the
source of the one-shot path, for the target of the first build and the
destination of the first render behind it, and the notices are those of that
path. -/
theorem one_source (calls : List Call) :
    (fresh.sources calls).length ≤ 1 ∧ ∀ source ∈ fresh.sources calls,
      ∃ before target between destination rest,
        calls = before ++ .build target :: (between ++ .render destination :: rest) ∧
        (∀ c ∈ before, !c.isBuild) ∧ (∀ c ∈ between, c.isBuild) ∧
        (generateEditor target destination).answer = .ok (some source) ∧
        (fresh.play calls).notices =
          Report.notices (generateEditor target destination).reports := by
  cases building : calls.find? (·.isBuild) with
  | none =>
    have none : ∀ c ∈ calls, !c.isBuild := by simpa using building
    simp [sources_without_build none]
  | some c =>
    obtain ⟨isBuild, before, rest, rfl, h⟩ := List.find?_eq_some_iff_append.mp building
    obtain ⟨target, rfl⟩ := c.eq_build isBuild
    cases rendering : rest.find? (!·.isBuild) with
    | none =>
      have builds : ∀ c ∈ rest, c.isBuild := by simpa using rendering
      simp [sources_without_render h builds]
    | some d =>
      obtain ⟨notBuild, between, rest, rfl, builds⟩ := List.find?_eq_some_iff_append.mp rendering
      obtain ⟨destination, rfl⟩ := d.eq_render notBuild
      have builds : ∀ c ∈ between, c.isBuild := by simpa using builds
      obtain ⟨sources, reports⟩ := one_shot target destination rest h builds
      rw [sources]
      refine ⟨Option.length_toList_le, fun source mem => ⟨before, target, between, destination,
        rest, rfl, h, builds, ?_, congrArg Report.notices reports⟩⟩
      exact source?_eq_some_iff.mp (Option.mem_toList.mp mem)

theorem one_source_stumbling :
    ∃ source, fresh.sources stumbling = [source] ∧
      ∃ before target between destination rest,
        stumbling = before ++ .build target :: (between ++ .render destination :: rest) ∧
        (∀ c ∈ before, !c.isBuild) ∧ (∀ c ∈ between, c.isBuild) ∧
        (generateEditor target destination).answer = .ok (some source) ∧
        (fresh.play stumbling).notices =
          Report.notices (generateEditor target destination).reports := by
  have one : (fresh.sources stumbling).length = 1 := rfl
  obtain ⟨source, only⟩ := List.length_eq_one_iff.mp one
  exact ⟨source, only, (one_source stumbling).2 source (only ▸ List.mem_singleton_self source)⟩

end Session

end Inspector
