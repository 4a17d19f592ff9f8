import EscapeKey.Config
import EscapeKey.Proofs.Counter.Elapsed
import EscapeKey.Proofs.Trace.TimedEvents

/-! A replay depends on the differences between times only. If a whole trace happens later, every
reading of the counter moves on by the same time, and so does the rollover, but no window between
two readings changes.
-/

namespace EscapeKey.Tap.State

/-- Moving all readings on by the same time keeps the windows that a press asks about, whatever
the state is and however long the gaps are.
-/
theorem keepsWindows_later {w : Nat} (ms : Nat) (s : Settings) (now : BitVec w)
    (st : State (BitVec w))
    : st.KeepsWindows (Counter.later · ms) s now := by
  have same (window : UInt32) (earlier : Option (BitVec w))
      : isWithin (Counter.later now ms) window (earlier.map (Counter.later · ms))
        = isWithin now window earlier := by
    cases earlier with
    | none => rfl
    | some reading => simp only [isWithin, Option.map_some, Option.any_some, Counter.elapsed_later]
  exact ⟨same s.timeout st.lastPress, fun _ _ => same _ st.runStart⟩

end EscapeKey.Tap.State

namespace EscapeKey.Trace

/-- The same event so many milliseconds later. -/
def Event.delay (ms : Nat) (event : Event) : Event :=
  { event with time := .ofNat (event.time.toNat + ms) }

/-- The counter reads the time of a delayed event as its reading of the event, moved on. -/
theorem Event.ofMillis_delay {w ms : Nat} {event : Event}
    (fits : event.time.toNat + ms < 2 ^ 64)
    : (Counter.ofMillis (event.delay ms).time.toNat : BitVec w)
      = Counter.later (Counter.ofMillis event.time.toNat) ms := by
  rw [delay, UInt64.toNat_ofNat_of_lt' fits]
  exact BitVec.ofNat_add _ _

/-- A replayed event that has been delayed. -/
def Replay.Step.delay (ms : Nat) (step : Replay.Step) : Replay.Step :=
  { step with event := step.event.delay ms }

/-- Delayed events do on moved readings what they did before, and leave all readings moved, by
induction on the events.
-/
theorem replay_map_later {w ms : Nat} (e : Engine (BitVec w)) (h : Host)
    {events : List Event} (fits : ∀ event ∈ events, event.time.toNat + ms < 2 ^ 64)
    : let plain := (replay e h events).map (Counter.later · ms)
      replay (e.map (Counter.later · ms)) h (events.map (Event.delay ms))
        = { plain with steps := plain.steps.map (Replay.Step.delay ms) } := by
  induction events generalizing e h with
  | nil => rfl
  | cons event rest ih =>
      have first : (event.delay ms).replay (e.map (Counter.later · ms)) h
          = (event.replay e h).map (Counter.later · ms) :=
        event.replay_map e h (Event.ofMillis_delay (fits event List.mem_cons_self))
          fun _ => Tap.State.keepsWindows_later ms _ _ _
      have later := ih (event.replay e h).engine (event.replay e h).host
        fun after member => fits after (List.mem_cons_of_mem event member)
      simp only [replay, List.map_cons, first, Engine.Outcome.map, later]
      rfl

/-- A reading that is moved on counts up to the period of the counter. -/
theorem map_toNat_later {w : Nat} (ms : Nat) (reading : Option (BitVec w))
    : (reading.map (Counter.later · ms)).map BitVec.toNat
      = (reading.map BitVec.toNat).map (fun value => (value + ms) % 2 ^ w) := by
  cases reading with
  | none => rfl
  | some value => simp [Counter.later]

/-- Only differences of times matter. If every event of a trace happens later by the same time, a
replay on a fresh engine has the same result for every event and leaves the same host, mode and
number of counted presses, and the readings that the timing keeps move on by that time, up to the
period of the counter. This holds for gaps of any length and wherever the counter starts again
from zero.
-/
theorem replay_delay {w : Nat} (c : Config) (h : Host) (ms : Nat) (events : List Event)
    (fits : ∀ event ∈ events, event.time.toNat + ms < 2 ^ 64)
    : let plain := replay (c.engine : Engine (BitVec w)) h events
      let delayed := replay (c.engine : Engine (BitVec w)) h (events.map (Event.delay ms))
      delayed.steps = plain.steps.map (Replay.Step.delay ms)
      ∧ delayed.host = plain.host
      ∧ delayed.engine.tap.mode = plain.engine.tap.mode
      ∧ delayed.engine.tap.runTaps = plain.engine.tap.runTaps
      ∧ delayed.engine.tap.lastPress.map BitVec.toNat
        = (plain.engine.tap.lastPress.map BitVec.toNat).map (fun value => (value + ms) % 2 ^ w)
      ∧ delayed.engine.tap.runStart.map BitVec.toNat
        = (plain.engine.tap.runStart.map BitVec.toNat).map
            (fun value => (value + ms) % 2 ^ w) := by
  intro plain delayed
  have moved : delayed = { plain.map (Counter.later · ms) with
      steps := plain.steps.map (Replay.Step.delay ms) } :=
    replay_map_later c.engine h fits
  rw [moved]
  exact ⟨rfl, rfl, rfl, rfl, map_toNat_later ms _, map_toNat_later ms _⟩

/-- The last two of three presses lie more than a period apart, which the counter of 16 bits takes
for a tenth of a second, so that they latch. They also do when the delay moves a rollover between
the first two.
-/
theorem replay_delay_aliased
    : let c : Config :=
        { Config.standard with
          tap := { Tap.Settings.standard with policy := .multiTap 3 400 } }
      let events : List Event :=
        [⟨100, .press, none, ∅⟩, ⟨200, .press, none, ∅⟩, ⟨65836, .press, none, ∅⟩,
          ⟨65900, .press, none, (⟨.shift, .left⟩ : Modifier).mask⟩]
      let delayed := replay (c.engine : Engine (BitVec 16)) .idle (events.map (Event.delay 65400))
      (∀ event ∈ events, event.time.toNat + 65400 < 2 ^ 64)
      ∧ delayed.steps.map (·.result.decision?)
        = [some .singleTap, some .singleTap, some .repeatTap, none]
      ∧ delayed.engine.tap.lastPress.map BitVec.toNat = some 164 := by
  intro c events delayed
  have fits : ∀ event ∈ events, event.time.toNat + 65400 < 2 ^ 64 := by decide
  obtain ⟨steps, _, _, _, last, _⟩ := replay_delay (w := 16) c .idle 65400 events fits
  refine ⟨fits, ?_, ?_⟩
  · rw [steps]
    decide
  · rw [last]
    decide

end EscapeKey.Trace
