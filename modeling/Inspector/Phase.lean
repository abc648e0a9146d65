/-!
# Phases of a request

A generation request moves through seven phases:

```text
idle → validating → building → built → rendered
           │                     └──→ cancelled
           └──→ failed
```

Three of them are final; a new request starts over in `idle`.
-/

namespace Inspector

/-- The phase of a generation request. -/
inductive Phase where
  /-- Nothing has been looked at yet. -/
  | idle
  /-- The target is being checked. -/
  | validating
  /-- The editor is being assembled. -/
  | building
  /-- The editor is assembled and waits to be rendered. -/
  | built
  /-- The source text has been produced. -/
  | rendered
  /-- The destination was dismissed; there is no output. -/
  | cancelled
  /-- The target was refused. -/
  | failed
deriving DecidableEq

namespace Phase

/-- The steps that a request may take. -/
def canAdvance : Phase → Phase → Bool
  | idle, validating => true
  | validating, building => true
  | validating, failed => true
  | building, built => true
  | built, rendered => true
  | built, cancelled => true
  | _, _ => false

/-- An assembled editor is there to be rendered. -/
def canRender : Phase → Bool
  | built => true
  | _ => false

/-- The request is over. -/
def isFinal : Phase → Bool
  | rendered | cancelled | failed => true
  | _ => false

/-- The name of a phase in messages. -/
def name : Phase → String
  | idle => "Idle"
  | validating => "Validating"
  | building => "Building"
  | built => "Built"
  | rendered => "Rendered"
  | cancelled => "Cancelled"
  | failed => "Failed"

/-- A phase in words. -/
def description : Phase → String
  | idle => "Request has not started"
  | validating => "Target type is being validated"
  | building => "Editor AST is being assembled"
  | built => "Editor AST is ready to render"
  | rendered => "Editor source has been rendered"
  | cancelled => "Request was cancelled without output"
  | failed => "Request failed validation"

end Phase

end Inspector
