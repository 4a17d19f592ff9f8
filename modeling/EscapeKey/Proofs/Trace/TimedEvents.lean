import EscapeKey.Proofs.Engine.Readings
import EscapeKey.Trace.Replay

/-! The events of a trace as the timing sees them. An event finds its own modifiers held, so it
says by itself whether the timing decides it, and only then does the engine change.
-/

namespace EscapeKey.Trace

/-- The timing decides the event: it is a press of the trigger, and no rule answers at its
modifiers.
-/
def Event.IsTimed (trigger : Key) (rules : List Override.Rule) (event : Event) : Prop :=
  Engine.IsTimed trigger rules event.mods (event.key.getD trigger) event.action

instance (trigger : Key) (rules : List Override.Rule) (event : Event)
    : Decidable (event.IsTimed trigger rules) :=
  inferInstanceAs (Decidable (Engine.IsTimed _ _ _ _ _))

variable {α β : Type} [Counter α] [Counter β]

/-- The event finds its own modifiers held. -/
@[simp]
theorem Event.hold_mods (event : Event) (h : Host) : (event.hold h).mods = event.mods := by
  unfold hold
  split
  case isTrue same => exact same
  case isFalse => rfl

/-- An event that the timing does not decide leaves the engine as it was. -/
theorem Event.replay_engine_of_not_timed {event : Event} {e : Engine α}
    (h : Host) (untimed : ¬ event.IsTimed e.trigger e.rules)
    : (event.replay e h).engine = e := by
  have undecided : ¬ Engine.IsTimed e.trigger e.rules (event.hold h).mods
      (event.key.getD e.trigger) event.action := by
    rwa [hold_mods]
  obtain ⟨result, host, outcome, _⟩ :=
    e.process_of_not_timed (event.hold h) (Counter.ofMillis event.time.toNat) undecided
  rw [replay, outcome]

/-- An event that the timing decides is a press at the time of the event. -/
theorem Event.replay_engine_of_timed {event : Event} {e : Engine α} (h : Host)
    (timed : event.IsTimed e.trigger e.rules)
    : (event.replay e h).engine
      = { e with tap := (e.tap.press e.settings (Counter.ofMillis event.time.toNat)).2 } := by
  have decided : Engine.IsTimed e.trigger e.rules (event.hold h).mods
      (event.key.getD e.trigger) event.action := by
    rwa [hold_mods]
  rw [replay, e.process_of_timed _ _ decided]
  rfl

/-- A replay with all readings of its engine changed. -/
def Replay.map (f : α → β) (r : Replay α) : Replay β :=
  ⟨r.steps, r.engine.map f, r.host⟩

/-- The same event at a changed time has the same outcome on changed readings, provided that the
timing answers alike where it is asked.
-/
theorem Event.replay_map {f : α → β} {event : Event} (e : Engine α) (h : Host)
    {time : UInt64} (reading : Counter.ofMillis time.toNat = f (Counter.ofMillis event.time.toNat))
    (keeps
      : event.IsTimed e.trigger e.rules
        → e.tap.KeepsWindows f e.settings (Counter.ofMillis event.time.toNat))
    : ({ event with time } : Event).replay (e.map f) h = (event.replay e h).map f := by
  have held : ({ event with time } : Event).hold h = event.hold h := rfl
  simp only [replay, held, reading]
  apply Engine.process_map
  rw [hold_mods]
  exact keeps

end EscapeKey.Trace
