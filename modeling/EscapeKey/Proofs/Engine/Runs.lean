import Mathlib.Data.List.ReduceOption
import EscapeKey.Proofs.Engine.TimedPresses

/-! Runs of an engine: key events at any readings of the clock, between which the user changes
the held modifiers and the timing may be forgotten.
-/

namespace EscapeKey.Engine

/-- What happens to an engine and its host: the user changes the held modifiers, all timing is
forgotten, or a key event comes at a reading of the clock.
-/
inductive Input (τ : Type) where
  | hold (mods : Mods)
  | clear
  | event (now : τ) (key : Key) (action : Action)
deriving DecidableEq, Repr

/-- The result of an input, if it is a key event, and the engine and the host after it. -/
structure Step (τ : Type) where
  result : Option Result
  engine : Engine τ
  host : Host
deriving DecidableEq, Repr

/-- The results of a list of inputs, one for each, and the engine and the host after them. -/
structure Run (τ : Type) where
  results : List (Option Result)
  engine : Engine τ
  host : Host
deriving DecidableEq, Repr

variable {τ : Type}

def step [Counter τ] (e : Engine τ) (h : Host) : Input τ → Step τ
  | .hold mods => ⟨none, e, h.holdMods mods⟩
  | .clear => ⟨none, e.clear, h⟩
  | .event now key action =>
    let outcome := e.process h now key action
    ⟨some outcome.result, outcome.engine, outcome.host⟩

def run [Counter τ] (e : Engine τ) (h : Host) : List (Input τ) → Run τ
  | [] => ⟨[], e, h⟩
  | input :: rest =>
    let first := e.step h input
    let later := run first.engine first.host rest
    { later with results := first.result :: later.results }

/-- The decision of the timing on the input, if it made one. -/
def Step.decision? (s : Step τ) : Option Tap.Decision :=
  s.result.bind Result.decision?

/-- The decisions of the timing, one for each input on which it made one and none for others. -/
def Run.answers (r : Run τ) : List (Option Tap.Decision) :=
  r.results.map (·.bind Result.decision?)

/-- The decisions of the timing in order. -/
def Run.decisions (r : Run τ) : List Tap.Decision :=
  r.answers.reduceOption

/-- The modifiers that are held after an input, if it is known what was held before. -/
def Input.heldAfter (held : Mods) : Input τ → Mods
  | .hold mods => mods
  | .clear | .event _ _ _ => held

end EscapeKey.Engine
