import Inspector.Proofs.Generation.Steps
import Inspector.Proofs.Target.Faults

/-!
# The verdict on a target

A fresh request judges its target before it does anything else, so that a
refusal leaves no trace but the failed phase: nothing is held, and a collecting
sink has what it had.

**The law** (`Generation.build_verdict`): the request succeeds exactly on the
targets that are there and in order, and fails on every other with the refusal
that comes first in reading order (`Target.Refused`).
-/

namespace Inspector

open Diagnostics

namespace Generation

/-- The answer to a fresh build is the verdict on the target. -/
theorem answer_build_initial (target : Option Target) :
    (build target .initial).answer =
      match Target.accept target with
      | .ok _ => .ok ()
      | .error refusal => .error (.refused refusal) := by
  cases accept : Target.accept target with
  | ok t => rw [build_of_accept rfl accept]
  | error refusal => rw [build_of_refuse rfl accept]

theorem answer_build_initial_eq_error_iff {target : Option Target} {failure : Failure} :
    (build target .initial).answer = .error failure ↔
      ∃ refusal, failure = .refused refusal ∧ Target.Refused target refusal := by
  simp only [← Target.accept_eq_error_iff]
  rw [answer_build_initial]
  cases Target.accept target <;> simp [eq_comm]

end Generation

/-- What a fresh request accepts may have an editor. -/
theorem Target.acceptable_of_build {t : Target}
    (accepted : (Generation.build (some t) .initial).answer = .ok ()) : t.Acceptable := by
  obtain ⟨own, accept⟩ := Generation.build_initial_ok_iff.mp accepted
  obtain ⟨same, acceptable⟩ := accept_eq_ok_iff.mp accept
  cases same
  exact acceptable

end Inspector
