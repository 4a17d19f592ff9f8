import EscapeKey.Engine
import EscapeKey.Host.Script

/-! Sessions: an engine with its host and its clock, driven by hand. -/

namespace EscapeKey.Engine

/-- An engine with its host and the present reading of its clock. -/
structure Session (τ : Type) where
  engine : Engine τ
  host : Host
  now : τ
deriving DecidableEq, Repr

namespace Session

inductive Op where
  /-- A key event, of the trigger if no key is given. -/
  | key (key : Option Key) (action : Action)
  | move (move : Clock.Move)
  | clear
  /-- A script is run on the host; a script that is abandoned ends the session. -/
  | script (script : Host.Script)
deriving DecidableEq, Repr

variable {τ : Type}

/-- One step of a session and the session after it. -/
inductive Step (τ : Type) where
  | key (result : Result) (after : Session τ)
  | move (move : Clock.Move) (after : Session τ)
  | clear (after : Session τ)
  | script (deed : Host.Script.Deed) (after : Session τ)
deriving DecidableEq, Repr

def Step.after : Step τ → Session τ
  | .key _ s | .move _ s | .clear s | .script _ s => s

/-- The steps of an operation. -/
def opSteps [Counter τ] (s : Session τ) : Op → List (Step τ)
  | .key key action =>
    let outcome := s.engine.process s.host s.now (key.getD s.engine.trigger) action
    [.key outcome.result { s with engine := outcome.engine, host := outcome.host }]
  | .move move => [.move move { s with now := Clock.move s.now move }]
  | .clear => [.clear { s with engine := s.engine.clear }]
  | .script script =>
    (script.steps s.host).map fun step => .script step.deed { s with host := step.host }

def afterSteps (s : Session τ) (steps : List (Step τ)) : Session τ :=
  (steps.getLast?.map Step.after).getD s

/-- The operation ends the session. -/
def Op.isLast : Op → Bool
  | .script s => s.panics
  | _ => false

/-- The steps of a list of operations. -/
def steps [Counter τ] (s : Session τ) : List Op → List (Step τ)
  | [] => []
  | op :: rest =>
    let first := s.opSteps op
    if op.isLast then first else first ++ steps (s.afterSteps first) rest

end Session

end EscapeKey.Engine
