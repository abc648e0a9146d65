/-!
# Levels

The severity of a diagnostic event, and the threshold below which a listener
hears nothing. The level `off` is a threshold only: nothing passes it, and an
event of that level is never passed on.
-/

namespace Inspector.Diagnostics

/-- A level, from the least severe up. -/
inductive Level where
  | trace
  | debug
  | info
  | warn
  | error
  | off
deriving DecidableEq

namespace Level

/-- The place of a level in the order of severity. -/
def severity : Level → Nat
  | trace => 0
  | debug => 1
  | info => 2
  | warn => 3
  | error => 4
  | off => 5

/-- The level of a severity; beyond the last, `off`. -/
def ofSeverity : Nat → Level
  | 0 => trace
  | 1 => debug
  | 2 => info
  | 3 => warn
  | 4 => error
  | _ => off

/-- The next lower level. -/
def below? : Level → Option Level
  | trace => none
  | debug => some trace
  | info => some debug
  | warn => some info
  | error => some warn
  | off => some error

/-- Whether an event of a level passes a threshold. -/
def passes (threshold level : Level) : Bool :=
  level != off && threshold.severity ≤ level.severity

theorem passes_iff {threshold level : Level} :
    threshold.passes level ↔ threshold.severity ≤ level.severity ∧ level ≠ off := by
  simp [passes, and_comm]

/-- Whatever is at least as severe as what passes, passes too. -/
theorem passes_mono {threshold lower level : Level} (passes : threshold.passes lower)
    (severer : lower.severity ≤ level.severity) (proper : level ≠ off) :
    threshold.passes level :=
  passes_iff.mpr ⟨Nat.le_trans (passes_iff.mp passes).1 severer, proper⟩

/-- The name of a level in messages. -/
def name : Level → String
  | trace => "TRACE"
  | debug => "DEBUG"
  | info => "INFO"
  | warn => "WARN"
  | error => "ERROR"
  | off => "OFF"

/-- The name of a level where a filter is chosen. -/
def directive : Level → String
  | trace => "trace"
  | debug => "debug"
  | info => "info"
  | warn => "warn"
  | error => "error"
  | off => "off"

/-- The number of a level where a filter is chosen, which rises as the level falls. -/
def number (level : Level) : Nat :=
  off.severity - level.severity

/-- All levels, from the least severe up. -/
def all : List Level :=
  [trace, debug, info, warn, error, off]

/-- Whether a filter text chooses a level: by the name, in letters of any case, or by the
number. -/
def isChosen (level : Level) (text : String) : Bool :=
  level.directive == text.map Char.toLower ||
    text != "" && text.toList.all Char.isDigit &&
      Nat.ofDigitChars 10 text.toList 0 == level.number

/-- The level of a filter text. -/
def ofDirective? (text : String) : Option Level :=
  all.find? (·.isChosen text)

end Level

end Inspector.Diagnostics
