import Inspector.Diagnostics.Channel
import Mathlib.Logic.Function.Iterate

/-!
# Exchanges step by step

What one step of an exchange can do is one of eight things (`Exchange.Turn`). Only one
of them calls a listener, and only three of them change the channel; nothing is ever
taken from the calls so far, nor from what is pending behind the first action.

An exchange comes to another one if it is there after some steps. One that comes to
rest is settled there (`Exchange.ComesTo.settle`): so whatever is done to a channel can
be followed step by step, and how many steps it takes is never said.
-/

namespace Inspector.Diagnostics.Exchange

variable {x y z : Exchange}

/-! ## One step -/

/-- What the next step of an exchange may do. -/
inductive Turn (x : Exchange) : Exchange → Prop
  /-- Nothing is pending. -/
  | idle (done : x.pending = []) : Turn x x
  | setLevel {level : Level} {rest : List Action} (next : x.pending = .setLevel level :: rest) :
    Turn x { x with channel.level := level, pending := rest }
  | listen {listener : Listener} {rest : List Action}
    (next : x.pending = .listen listener :: rest) :
    Turn x { x with channel.listener := some listener, pending := rest }
  | unlisten {rest : List Action} (next : x.pending = .unlisten :: rest) :
    Turn x { x with channel.listener := none, pending := rest }
  /-- A message is let through, and the listener is called. -/
  | called {m : Message} {rest : List Action} {listener : Listener}
    (next : x.pending = .send m :: rest) (enabled : x.channel.level.passes m.level)
    (there : x.channel.listener = some listener) :
    Turn x { x with
      pending := listener.react x.calls m ++ rest
      calls := x.calls ++ [⟨x.channel.level, m⟩] }
  /-- A message does not pass, or nobody listens. -/
  | unheard {m : Message} {rest : List Action} (next : x.pending = .send m :: rest)
    (silent : ¬x.channel.level.passes m.level ∨ x.channel.listener = none) :
    Turn x { x with pending := rest }
  /-- An event becomes a message. -/
  | worded {e : Event} {rest : List Action} (next : x.pending = .emit e :: rest)
    (enabled : x.channel.level.passes e.level) :
    Turn x { x with pending := .send e.message :: rest }
  /-- An event does not pass. -/
  | ignored {e : Event} {rest : List Action} (next : x.pending = .emit e :: rest)
    (disabled : ¬x.channel.level.passes e.level) :
    Turn x { x with pending := rest }

theorem step_of_nil (done : x.pending = []) : x.step = x := by
  rw [step, done]

theorem step_of_cons {action : Action} {rest : List Action} (next : x.pending = action :: rest) :
    x.step = { x with pending := rest }.perform action := by
  rw [step, next]

/-- The next step does what a step may do. -/
theorem turn (x : Exchange) : x.Turn x.step := by
  cases next : x.pending with
  | nil =>
    rw [step_of_nil next]
    exact .idle next
  | cons action rest =>
    rw [step_of_cons next]
    cases action with
    | setLevel level => exact .setLevel next
    | listen listener => exact .listen next
    | unlisten => exact .unlisten next
    | send m =>
      by_cases enabled : x.channel.level.passes m.level
      · cases there : x.channel.listener with
        | some listener =>
          simp only [perform, Channel.isEnabled, enabled, there, if_true]
          exact .called next enabled there
        | none =>
          simp only [perform, there, ite_self]
          exact .unheard next (.inr there)
      · simp only [perform, Channel.isEnabled, enabled, if_false, Bool.false_eq_true]
        exact .unheard next (.inl enabled)
    | emit e =>
      by_cases enabled : x.channel.level.passes e.level
      · simp only [perform, Channel.isEnabled, enabled, if_true]
        exact .worded next enabled
      · simp only [perform, Channel.isEnabled, enabled, if_false, Bool.false_eq_true]
        exact .ignored next enabled

/-! ## Many steps -/

/-- An exchange is at another one after some steps. -/
def ComesTo (x y : Exchange) : Prop :=
  ∃ n, step^[n] x = y

namespace ComesTo

theorem of_eq (same : x = y) : x.ComesTo y :=
  ⟨0, same⟩

theorem head (h : x.step.ComesTo y) : x.ComesTo y := by
  obtain ⟨n, rfl⟩ := h
  exact ⟨n + 1, rfl⟩

theorem trans (h : x.ComesTo y) (h' : y.ComesTo z) : x.ComesTo z := by
  obtain ⟨n, rfl⟩ := h
  obtain ⟨k, rfl⟩ := h'
  exact ⟨k + n, Function.iterate_add_apply step k n x⟩

/-- An exchange that comes to rest goes on only so far. -/
theorem acc (h : x.ComesTo y) (rests : y.pending = []) : Acc GoesOn x := by
  obtain ⟨n, rfl⟩ := h
  induction n generalizing x with
  | zero => exact ⟨x, fun _ goes => (goes.1 rests).elim⟩
  | succ n ih =>
    rw [Function.iterate_succ_apply] at rests
    refine ⟨x, ?_⟩
    rintro _ ⟨_, rfl⟩
    exact ih rests

/-- An exchange that comes to rest is settled where it rests. -/
theorem settle (h : x.ComesTo y) (rests : y.pending = []) : x.settle = y := by
  have unfolds (x : Exchange) (ends : Acc GoesOn x) :
      x.settle = if x.pending = [] then x else x.step.settle := by
    rw [Exchange.settle, WellFounded.partialExtrinsicFix_eq_apply_of_acc ends]
    rfl
  have ends := h.acc rests
  obtain ⟨n, rfl⟩ := h
  induction n generalizing x with
  | zero =>
    rw [Function.iterate_zero, id] at rests ⊢
    rw [unfolds x ends, if_pos rests]
  | succ n ih =>
    rw [Function.iterate_succ_apply] at rests ⊢
    rw [unfolds x ends]
    split
    next done =>
      -- nothing was pending, so no step changed anything
      rw [step_of_nil done, Function.iterate_fixed (step_of_nil done)]
    next going => exact ih (ends.inv ⟨going, rfl⟩) rests

end ComesTo

end Inspector.Diagnostics.Exchange
