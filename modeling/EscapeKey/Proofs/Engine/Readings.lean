import EscapeKey.Engine
import EscapeKey.Proofs.Engine.TimedPresses
import EscapeKey.Proofs.Tap.Readings

/-! The engine under a change of readings. Only the timing reads the clock, and the host never
sees a reading, so what the timing does not tell apart makes no difference to an event.
-/

namespace EscapeKey.Engine

variable {α β : Type}

/-- The engine with all readings of its timing changed. -/
def map (f : α → β) (e : Engine α) : Engine β :=
  { trigger := e.trigger, rules := e.rules, settings := e.settings, tap := e.tap.map f }

/-- The outcome with all readings of its engine changed. -/
def Outcome.map (f : α → β) (o : Outcome α) : Outcome β :=
  ⟨o.result, o.engine.map f, o.host⟩

variable [Counter α] [Counter β]

/-- A key event has the same outcome on changed readings, provided that the timing answers alike
where it is asked. Witness: cases on who decides the event, following the engine.
-/
theorem process_map {f : α → β} (e : Engine α) (h : Host) (now : α) (key : Key)
    (action : Action)
    (keeps
      : IsTimed e.trigger e.rules h.mods key action → e.tap.KeepsWindows f e.settings now)
    : (e.map f).process h (f now) key action = (e.process h now key action).map f := by
  by_cases timed : IsTimed e.trigger e.rules h.mods key action
  · rw [process_of_timed e h now timed, process_of_timed (e.map f) h (f now) timed]
    simp only [pressTap, map, Tap.State.press_map (keeps timed)]
    rfl
  · by_cases other : key = e.trigger
    case neg => simp [process, other, map, Outcome.map]
    cases action with
    | release | autoRepeat => simp [process, other, Action.isPress, map, Outcome.map]
    | press =>
        cases matched : Override.resolve e.rules h.mods with
        | none => exact absurd ⟨other, rfl, matched⟩ timed
        | some rule => simp [process, other, Action.isPress, press, matched, map, Outcome.map]

end EscapeKey.Engine
