import Inspector.Diagnostics.Event

/-!
# The channel to the host

A channel passes messages on to the listener of the host, if there is one and
the level of the message passes the level of the channel. The listener may act
on the channel while it is being called: set the level, replace or remove
itself, or send messages, which are delivered before the call returns. So calls
are made within calls, to any depth, and a listener may call itself without end.

What is under way on a channel is an exchange. What a listener does comes before
whatever else was to be done, so a single list holds what all open calls have
still to do, the innermost first. An exchange goes on until nothing is pending.
-/

namespace Inspector.Diagnostics

/-- A message to the host. -/
structure Message where
  level : Level
  origin : String
  text : String
deriving DecidableEq

/-- An event as a channel passes it on. -/
def Event.message (e : Event) : Message :=
  ⟨e.level, e.origin, e.line⟩

/-- A call of a listener: the message, and the level of the channel when the
message was let through. -/
structure Call where
  threshold : Level
  message : Message
deriving DecidableEq

mutual

/-- A listener is told by what it does on a message, beyond taking note of it. It
may remember the calls that came before. -/
inductive Listener where
  | mk (react : List Call → Message → List Action)

/-- Something that is done to a channel, by the host or by the listener. -/
inductive Action where
  | setLevel (level : Level)
  | listen (listener : Listener)
  | unlisten
  | send (m : Message)
  /-- An event is put into words only if its level passes, and then sent. -/
  | emit (e : Event)

end

namespace Listener

/-- What a listener does on a message, after the calls before it. -/
def react : Listener → List Call → Message → List Action
  | mk react => react

/-- Takes note and does nothing else. -/
def passive : Listener := ⟨fun _ _ => []⟩

/-- Leaves after the first message. -/
def once : Listener := ⟨fun _ _ => [.unlisten]⟩

/-- Raises the level of the channel to that of the message. -/
def raising : Listener := ⟨fun _ m => [.setLevel m.level]⟩

/-- Sends another message one level lower, as long as there is one. -/
def echoing : Listener :=
  ⟨fun _ m =>
    match m.level.below? with
    | some level => [.send ⟨level, m.origin, "again"⟩]
    | none => []⟩

end Listener

/-- The state of a channel. -/
structure Channel where
  level : Level
  listener : Option Listener

namespace Channel

/-- A fresh channel. -/
def initial : Channel := ⟨.info, none⟩

/-- The channel of a threshold with a listener that only takes note. -/
def listening (threshold : Level) : Channel :=
  ⟨threshold, some .passive⟩

/-- Whether messages of a level are let through. -/
def isEnabled (c : Channel) (level : Level) : Bool :=
  c.level.passes level

end Channel

/-- What is under way on a channel: the actions that are still to be done, in
their order, and the calls so far in the order in which they began. -/
structure Exchange where
  channel : Channel
  pending : List Action
  calls : List Call

namespace Exchange

instance : Nonempty Exchange := ⟨⟨.initial, [], []⟩⟩

/-- Does one action. What a listener does on a message comes before the rest. -/
def perform (x : Exchange) : Action → Exchange
  | .setLevel level => { x with channel.level := level }
  | .listen listener => { x with channel.listener := some listener }
  | .unlisten => { x with channel.listener := none }
  | .send m =>
    if x.channel.isEnabled m.level then
      match x.channel.listener with
      | some listener =>
        { x with
          pending := listener.react x.calls m ++ x.pending
          calls := x.calls ++ [⟨x.channel.level, m⟩] }
      | none => x
    else x
  | .emit e =>
    if x.channel.isEnabled e.level then { x with pending := .send e.message :: x.pending } else x

/-- Does the first of the pending actions. -/
def step (x : Exchange) : Exchange :=
  match x.pending with
  | [] => x
  | action :: rest => { x with pending := rest }.perform action

/-- An exchange goes on with its next step as long as something is pending. -/
def GoesOn (later earlier : Exchange) : Prop :=
  earlier.pending ≠ [] ∧ later = earlier.step

/-- Carries on until nothing is pending, which may never be. -/
def settle : Exchange → Exchange :=
  WellFounded.partialExtrinsicFix GoesOn fun x next =>
    if rests : x.pending = [] then x else next x.step ⟨rests, rfl⟩

end Exchange

namespace Channel

/-- Does something to a channel: the channel afterwards, and the calls. -/
def act (c : Channel) (action : Action) : Channel × List Call :=
  let after := Exchange.settle ⟨c, [action], []⟩
  (after.channel, after.calls)

/-- Sends a message. -/
def send (c : Channel) (m : Message) : Channel × List Call :=
  c.act (.send m)

/-- Sends an event. -/
def emit (c : Channel) (e : Event) : Channel × List Call :=
  c.act (.emit e)

/-- Sends events one after the other. -/
def emitAll (c : Channel) : List Event → Channel × List Call
  | [] => (c, [])
  | e :: rest =>
    let (after, calls) := c.emit e
    let (last, more) := emitAll after rest
    (last, calls ++ more)

end Channel

end Inspector.Diagnostics
