import EscapeKey.Engine
import EscapeKey.Trace

/-! Replaying a trace: every event first sets the held modifiers and the clock and then goes to
the engine.
-/

namespace EscapeKey.Trace

/-- A replayed event and what became of it. -/
structure Replay.Step where
  event : Event
  result : Engine.Result
deriving DecidableEq, Repr

structure Replay (τ : Type) where
  steps : List Replay.Step
  engine : Engine τ
  host : Host
deriving DecidableEq, Repr

variable {τ : Type}

/-- The host as the event finds it, with the event's modifiers held. -/
def Event.hold (e : Event) (h : Host) : Host :=
  if h.mods = e.mods then h else h.holdMods e.mods

/-- The engine's answer to an event, at the reading that its time gives. -/
def Event.replay [Counter τ] (e : Event) (engine : Engine τ) (host : Host)
    : Engine.Outcome τ :=
  engine.process (e.hold host) (Counter.ofMillis e.time.toNat) (e.key.getD engine.trigger)
    e.action

def replay [Counter τ] (engine : Engine τ) (host : Host) : List Event → Replay τ
  | [] => ⟨[], engine, host⟩
  | e :: rest =>
    let outcome := e.replay engine host
    let later := replay outcome.engine outcome.host rest
    { later with steps := ⟨e, outcome.result⟩ :: later.steps }

end EscapeKey.Trace
