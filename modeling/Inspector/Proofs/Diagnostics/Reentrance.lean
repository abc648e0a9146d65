import Inspector.Proofs.Diagnostics.Exchange

/-!
# Listeners that act on their own channel

A listener runs in the middle of the delivery that called it and may change what the
delivery looked at: the level, the listener, and by sending more, what is delivered
next. Nothing is assumed of it here, not even that it comes to an end; so what is said
of all listeners is said of every step of an exchange.

**The law** (`Exchange.orderly`): no message is delivered against the level that the
channel has when that very message is looked at, and none of level `off` at all. This
settles how three kinds of listeners fare: one that leaves first is called once for each
time it is installed, one that raises the level to what it hears hears nothing lower
again, and one that sends what it hears one level lower is called level by level down to
that of the channel, and then no more.

The law speaks of an exchange at any point, with whatever is pending and was called
before. A fresh channel and what a host does to it is one of them.
-/

namespace Inspector.Diagnostics

/-! ## Kinds of listeners -/

namespace Listener

/-- Whatever it hears, the first thing a listener does is to leave. -/
def LeavesFirst (listener : Listener) : Prop :=
  ∀ (calls : List Call) (m : Message), ∃ rest, listener.react calls m = .unlisten :: rest

/-- Whatever it hears, all that a listener does is to send a message one level lower, as
long as there is one. -/
def SendsBelow (listener : Listener) : Prop :=
  ∀ (calls : List Call) (m : Message),
    match m.level.below? with
    | some level => ∃ origin text, listener.react calls m = [.send ⟨level, origin, text⟩]
    | none => listener.react calls m = []

theorem once_leavesFirst : once.LeavesFirst :=
  fun _ _ => ⟨[], rfl⟩

theorem echoing_sendsBelow : echoing.SendsBelow := by
  intro calls m
  split
  next lower => exact ⟨m.origin, "again", by simp [react, echoing, lower]⟩
  next lowest => simp [react, echoing, lowest]

end Listener

/-- Whether something that is done to a channel is for the listener to hear. -/
def Action.isMessage : Action → Bool
  | send _ => true
  | emit _ => true
  | _ => false

namespace Level

/-- The levels from one down to another. -/
def descent (high low : Level) : List Level :=
  all.reverse.filter fun level => low.severity ≤ level.severity ∧ level.severity ≤ high.severity

theorem severity_below {level lower : Level} (h : level.below? = some lower) :
    lower.severity < level.severity := by
  cases level <;> cases h <;> decide

theorem descent_lowest {level threshold : Level} (lowest : level.below? = none)
    (passes : threshold.passes level) : descent level threshold = [level] := by
  cases level <;> cases lowest
  cases threshold <;> first | rfl | cases passes

example : descent error info = [error, warn, info] := rfl

/-- The way down from a level goes on from the next lower one. -/
theorem descent_below {level lower threshold : Level} (next : level.below? = some lower)
    (passes : threshold.passes level) : descent level threshold =
      level :: if threshold.passes lower then descent lower threshold else [] := by
  cases level <;> cases next <;> cases threshold <;> first | rfl | cases passes

end Level

namespace Exchange

variable {x : Exchange}

/-! ## Calls -/

/-- The next step of an exchange calls a listener. -/
structure Calls (x : Exchange) (listener : Listener) (call : Call) : Prop where
  there : x.channel.listener = some listener
  made : x.step.calls = x.calls ++ [call]

/-- A call is made on a message that passes, and what the listener does comes next. -/
theorem Calls.step_eq {listener : Listener} {call : Call} (h : x.Calls listener call) :
    ∃ rest, x.pending = .send call.message :: rest ∧ call.threshold = x.channel.level ∧
      x.channel.level.passes call.message.level ∧
      x.step = { x with
        pending := listener.react x.calls call.message ++ rest
        calls := x.calls ++ [call] } := by
  obtain ⟨listens, made⟩ := h
  have turn := x.turn
  generalize x.step = y at turn made ⊢
  cases turn with
  | called next enabled there =>
    cases listens.symm.trans there
    cases List.append_cancel_left made
    exact ⟨_, next, rfl, enabled, rfl⟩
  | idle | setLevel | listen | unlisten | unheard | worded | ignored =>
    -- nobody is called
    simp at made

/-- A step makes no call, or one on a message that passes. -/
theorem step_calls (x : Exchange) : x.step.calls = x.calls ∨ ∃ listener call,
    x.Calls listener call := by
  have turn := x.turn
  generalize same : x.step = y at turn
  cases turn with
  | called next enabled there => exact .inr ⟨_, _, there, by rw [same]⟩
  | idle | setLevel | listen | unlisten | unheard | worded | ignored => exact .inl rfl

/-- Whoever is called in the course of an exchange, is called at a step of it. -/
theorem calls_iterate (x : Exchange) (n : Nat) : ∃ further,
    (step^[n] x).calls = x.calls ++ further ∧
      ∀ call ∈ further, ∃ k < n, ∃ listener, (step^[k] x).Calls listener call := by
  induction n with
  | zero => exact ⟨[], (List.append_nil _).symm, List.forall_mem_nil _⟩
  | succ n ih =>
    obtain ⟨further, calls, each⟩ := ih
    have before : ∀ call ∈ further, ∃ k < n + 1, ∃ listener, (step^[k] x).Calls listener call := by
      intro call mem
      obtain ⟨k, lt, own⟩ := each call mem
      exact ⟨k, Nat.lt_succ_of_lt lt, own⟩
    rw [Function.iterate_succ_apply']
    rcases (step^[n] x).step_calls with silent | ⟨listener, call, own⟩
    · exact ⟨further, silent.trans calls, before⟩
    · refine ⟨further ++ [call], by rw [own.made, calls, List.append_assoc], fun other mem => ?_⟩
      rcases List.mem_append.mp mem with old | new
      · exact before other old
      · cases List.mem_singleton.mp new
        exact ⟨n, Nat.lt_succ_self n, listener, own⟩

/-! ## A listener that leaves first -/

/-- Where nobody listens, nobody does after a step that installs no listener. -/
theorem unattended_step (unattended : x.channel.listener = none)
    (other : ∀ new rest, x.pending ≠ .listen new :: rest) : x.step.channel.listener = none := by
  have turn := x.turn
  generalize x.step = y at turn
  cases turn with
  | listen next => exact absurd next (other _ _)
  | unlisten => rfl
  | idle | setLevel | called | unheard | worded | ignored => exact unattended

theorem unattended_iterate (unattended : x.channel.listener = none) {n : Nat}
    (other : ∀ i < n, ∀ new rest, (step^[i] x).pending ≠ .listen new :: rest) :
    (step^[n] x).channel.listener = none := by
  induction n with
  | zero => exact unattended
  | succ n ih =>
    rw [Function.iterate_succ_apply']
    exact unattended_step (ih fun i lt => other i (Nat.lt_succ_of_lt lt)) (other n n.lt_succ_self)

/-- Two steps after a listener was called that leaves first, nobody listens. -/
theorem Calls.leaves {listener : Listener} {call : Call} (h : x.Calls listener call)
    (leaves : listener.LeavesFirst) :
    (∃ rest, x.step.pending = .unlisten :: rest) ∧ x.step.step.channel.listener = none := by
  obtain ⟨rest, _, _, _, step⟩ := h.step_eq
  obtain ⟨more, react⟩ := leaves x.calls call.message
  have next : x.step.pending = .unlisten :: (more ++ rest) := by
    rw [step, react, List.cons_append]
  refine ⟨⟨_, next⟩, ?_⟩
  rw [step_of_cons next]
  rfl

/-- Between the call of a listener that leaves first and the next call of anyone, a
listener is installed. -/
theorem Calls.installed {j k : Nat} {listener other : Listener} {call later : Call}
    (leaves : listener.LeavesFirst) (before : j < k) (h : (step^[j] x).Calls listener call)
    (h' : (step^[k] x).Calls other later) :
    ∃ i, j < i ∧ i < k ∧ ∃ new rest, (step^[i] x).pending = .listen new :: rest := by
  obtain ⟨⟨rest, leaving⟩, left⟩ := h.leaves leaves
  have leaving : (step^[j + 1] x).pending = .unlisten :: rest := by
    rw [Function.iterate_succ_apply']
    exact leaving
  have left : (step^[j + 2] x).channel.listener = none := by
    rw [Function.iterate_succ_apply', Function.iterate_succ_apply']
    exact left
  obtain ⟨d, rfl⟩ := Nat.exists_eq_add_of_lt before
  by_contra none
  simp only [not_exists, not_and] at none
  cases d with
  | zero =>
    -- the step after the call is the one that leaves, and calls nobody
    obtain ⟨_, sends, _⟩ := h'.step_eq
    rw [leaving] at sends
    cases sends
  | succ d =>
    have apart (i : Nat) : step^[i] (step^[j + 2] x) = step^[j + 2 + i] x := by
      rw [← Function.iterate_add_apply, Nat.add_comm]
    have still := unattended_iterate (n := d) left fun i lt new rest => by
      rw [apart]
      exact none (j + 2 + i) (by omega) (by omega) new rest
    have there := h'.there
    rw [apart, show j + 2 + d = j + (d + 1) + 1 by omega, there] at still
    cases still

/-! ## A listener that raises the level -/

/-- One message to a listener that raises the level: the level does not fall, and if
the message is delivered it is that of the message. -/
theorem raising_message {action : Action} {rest : List Action} (message : action.isMessage)
    (listens : x.channel.listener = some .raising) (next : x.pending = action :: rest) :
    ∃ delivered level, x.ComesTo ⟨⟨level, some .raising⟩, rest, x.calls ++ delivered⟩ ∧
      x.channel.level.severity ≤ level.severity ∧
      (delivered = [] ∨ ∃ call, delivered = [call] ∧ call.message.level = level) := by
  obtain ⟨⟨threshold, listener⟩, pending, calls⟩ := x
  cases listens
  cases next
  have send (m : Message) : ∃ delivered level,
      ComesTo ⟨⟨threshold, some .raising⟩, .send m :: rest, calls⟩
        ⟨⟨level, some .raising⟩, rest, calls ++ delivered⟩ ∧
      threshold.severity ≤ level.severity ∧
      (delivered = [] ∨ ∃ call, delivered = [call] ∧ call.message.level = level) := by
    by_cases enabled : threshold.passes m.level
    · refine ⟨[⟨threshold, m⟩], m.level, .head (.head (.of_eq ?_)), (Level.passes_iff.mp enabled).1,
        .inr ⟨_, rfl, rfl⟩⟩
      simp [step, perform, Channel.isEnabled, enabled, Listener.react, Listener.raising]
    · refine ⟨[], threshold, .head (.of_eq ?_), Nat.le_refl _, .inl rfl⟩
      simp [step, perform, Channel.isEnabled, enabled]
  cases action with
  | send m => exact send m
  | emit e =>
    by_cases enabled : threshold.passes e.level
    · obtain ⟨delivered, level, comes, raised⟩ := send e.message
      refine ⟨delivered, level, .head ?_, raised⟩
      simpa [step, perform, Channel.isEnabled, enabled] using comes
    · refine ⟨[], threshold, .head (.of_eq ?_), Nat.le_refl _, .inl rfl⟩
      simp [step, perform, Channel.isEnabled, enabled]
  | setLevel | listen | unlisten => cases message

/-- Messages to a listener that raises the level: those that are delivered are in the
order of their levels, and none is below the level from the start. -/
theorem raising_messages {between after : List Action}
    (listens : x.channel.listener = some .raising) (next : x.pending = between ++ after)
    (messages : ∀ action ∈ between, action.isMessage) :
    ∃ delivered level, x.ComesTo ⟨⟨level, some .raising⟩, after, x.calls ++ delivered⟩ ∧
      (∀ call ∈ delivered, x.channel.level.severity ≤ call.message.level.severity) ∧
      delivered.Pairwise fun a b => a.message.level.severity ≤ b.message.level.severity := by
  induction between generalizing x with
  | nil =>
    refine ⟨[], x.channel.level, .of_eq ?_, List.forall_mem_nil _, .nil⟩
    obtain ⟨⟨threshold, listener⟩, pending, calls⟩ := x
    cases listens
    cases next
    rw [List.append_nil]
  | cons action between ih =>
    obtain ⟨own, others⟩ := List.forall_mem_cons.mp messages
    obtain ⟨first, level, comes, raised, one⟩ := raising_message own listens next
    obtain ⟨further, last, onward, above, ordered⟩ :=
      ih (x := ⟨⟨level, some .raising⟩, between ++ after, x.calls ++ first⟩) rfl rfl others
    have higher : ∀ call ∈ further, x.channel.level.severity ≤ call.message.level.severity :=
      fun call mem => Nat.le_trans raised (above call mem)
    rw [List.append_assoc] at onward
    refine ⟨first ++ further, last, comes.trans onward, ?_⟩
    rcases one with rfl | ⟨call, rfl, same⟩
    · exact ⟨higher, ordered⟩
    · -- what comes later passed the level of this message
      refine ⟨List.forall_mem_cons.mpr ⟨same ▸ raised, higher⟩,
        List.pairwise_cons.mpr ⟨?_, ordered⟩⟩
      rw [same]
      exact above

/-! ## A listener that sends below what it hears -/

theorem sendsBelow_message {listener : Listener} (below : listener.SendsBelow) {m : Message}
    {rest : List Action} (listens : x.channel.listener = some listener)
    (next : x.pending = .send m :: rest) :
    ∃ delivered, x.ComesTo ⟨x.channel, rest, x.calls ++ delivered⟩ ∧
      delivered.map (·.message.level) =
        if x.channel.level.passes m.level then Level.descent m.level x.channel.level else [] := by
  -- on the level of the message: what the listener sends is lower
  induction sort : m.level.severity using Nat.strongRecOn generalizing x m with
  | _ _ ih =>
    obtain ⟨⟨threshold, _⟩, pending, calls⟩ := x
    cases listens
    cases next
    by_cases enabled : threshold.passes m.level
    · have first : step ⟨⟨threshold, some listener⟩, .send m :: rest, calls⟩ =
          ⟨⟨threshold, some listener⟩, listener.react calls m ++ rest,
            calls ++ [⟨threshold, m⟩]⟩ := by
        simp [step, perform, Channel.isEnabled, enabled]
      have reacts := below calls m
      cases lower : m.level.below? with
      | none =>
        rw [lower] at reacts
        refine ⟨[⟨threshold, m⟩], .head (.of_eq (by rw [first, reacts]; rfl)), ?_⟩
        rw [if_pos enabled, Level.descent_lowest lower enabled]
        rfl
      | some level =>
        rw [lower] at reacts
        obtain ⟨origin, text, react⟩ := reacts
        obtain ⟨further, comes, levels⟩ := ih level.severity (sort ▸ Level.severity_below lower)
          (x := ⟨⟨threshold, some listener⟩, .send ⟨level, origin, text⟩ :: rest,
            calls ++ [⟨threshold, m⟩]⟩) rfl rfl rfl
        rw [List.append_assoc] at comes
        refine ⟨⟨threshold, m⟩ :: further, .head ?_, ?_⟩
        · rw [first, react]
          exact comes
        · rw [if_pos enabled, Level.descent_below lower enabled, List.map_cons, levels]
    · refine ⟨[], .head (.of_eq ?_), by rw [if_neg enabled]; rfl⟩
      simp [step, perform, Channel.isEnabled, enabled]

/-! ## The law -/

/-- What is true of an exchange, whoever listens and whatever is pending. -/
structure Orderly (x : Exchange) : Prop where
  /-- Every call from here on is made at a step, where its message passes the level of
  the channel. -/
  passed : ∀ n, ∃ further, (step^[n] x).calls = x.calls ++ further ∧
    ∀ call ∈ further, ∃ k < n, (∃ listener, (step^[k] x).Calls listener call) ∧
      call.message.level ≠ .off ∧
      (step^[k] x).channel.level.severity ≤ call.message.level.severity
  /-- A listener that leaves first is called once: before the next call of anyone, a
  listener is installed. -/
  once : ∀ j k listener other call later, listener.LeavesFirst → j < k →
    (step^[j] x).Calls listener call → (step^[k] x).Calls other later →
    ∃ i, j < i ∧ i < k ∧ ∃ new rest, (step^[i] x).pending = .listen new :: rest
  /-- While a listener that raises the level is only sent messages, what it hears never
  falls in level. -/
  rising : ∀ between after, x.channel.listener = some .raising → x.pending = between ++ after →
    (∀ action ∈ between, action.isMessage) →
    ∃ delivered level, x.ComesTo ⟨⟨level, some .raising⟩, after, x.calls ++ delivered⟩ ∧
      delivered.Pairwise fun a b => a.message.level.severity ≤ b.message.level.severity
  /-- A message to a listener that sends below what it hears is delivered level by level,
  down to that of the channel. -/
  falling : ∀ listener m rest, listener.SendsBelow → x.channel.listener = some listener →
    x.pending = .send m :: rest →
    ∃ delivered, x.ComesTo ⟨x.channel, rest, x.calls ++ delivered⟩ ∧
      delivered.map (·.message.level) =
        if x.channel.level.severity ≤ m.level.severity ∧ m.level ≠ .off then
          Level.descent m.level x.channel.level
        else []

/-- Every exchange is orderly, at every point. -/
theorem orderly (x : Exchange) : x.Orderly where
  passed n := by
    obtain ⟨further, calls, each⟩ := x.calls_iterate n
    refine ⟨further, calls, fun call mem => ?_⟩
    obtain ⟨k, lt, listener, own⟩ := each call mem
    obtain ⟨_, _, _, enabled, _⟩ := own.step_eq
    obtain ⟨above, sort⟩ := Level.passes_iff.mp enabled
    exact ⟨k, lt, ⟨listener, own⟩, sort, above⟩
  once j k listener other call later leaves before h h' := h.installed leaves before h'
  rising between after listens next messages := by
    obtain ⟨delivered, level, comes, _, ordered⟩ := raising_messages listens next messages
    exact ⟨delivered, level, comes, ordered⟩
  falling listener m rest below listens next := by
    obtain ⟨delivered, comes, levels⟩ := sendsBelow_message below listens next
    refine ⟨delivered, comes, levels.trans ?_⟩
    simp only [Level.passes_iff]

/-- An alarm of a level. -/
def alarm (level : Level) : Message := ⟨level, "host", "alarm"⟩

/-- Two alarms to a listener that leaves first; between them it is installed again. -/
def reinstalled : Exchange where
  channel := ⟨.trace, some .once⟩
  pending := [.send (alarm .warn), .listen .once, .send (alarm .warn)]
  calls := []

/-- Alarms to a listener that raises the level. -/
def raised : Exchange where
  channel := ⟨.trace, some .raising⟩
  pending := [.send (alarm .info), .send (alarm .error), .send (alarm .warn)]
  calls := []

/-- An alarm to a listener that sends below what it hears. -/
def echoed : Exchange where
  channel := ⟨.info, some .echoing⟩
  pending := [.send (alarm .error)]
  calls := []

theorem orderly_alarm :
    (∃ i, 0 < i ∧ i < 3 ∧ ∃ new rest, (step^[i] reinstalled).pending = .listen new :: rest) ∧
    (∃ delivered level, raised.ComesTo ⟨⟨level, some .raising⟩, [], delivered⟩ ∧
      delivered.Pairwise fun a b => a.message.level.severity ≤ b.message.level.severity) ∧
    ∃ delivered, echoed.ComesTo ⟨⟨.info, some .echoing⟩, [], delivered⟩ ∧
      delivered.map (·.message.level) = [.error, .warn, .info] := by
  have first : reinstalled.Calls .once ⟨.trace, alarm .warn⟩ := ⟨rfl, rfl⟩
  have second : (step^[3] reinstalled).Calls .once ⟨.trace, alarm .warn⟩ := ⟨rfl, rfl⟩
  exact ⟨(orderly reinstalled).once 0 3 .once .once _ _ Listener.once_leavesFirst (by decide)
      first second,
    (orderly raised).rising raised.pending [] rfl (List.append_nil _).symm (by decide),
    (orderly echoed).falling .echoing (alarm .error) [] Listener.echoing_sendsBelow rfl rfl⟩

end Exchange

end Inspector.Diagnostics
