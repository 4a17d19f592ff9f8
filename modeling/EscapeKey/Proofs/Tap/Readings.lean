import EscapeKey.Proofs.Tap.Presses

/-! The tap machine under a change of readings. The machine only asks whether less than a window
has elapsed, so wherever two counters agree on that, it does the same on both.
-/

namespace EscapeKey.Tap.State

variable {α β : Type}

/-- The state with all its readings changed. -/
def map (f : α → β) (st : State α) : State β where
  mode := st.mode
  lastPress := st.lastPress.map f
  runStart := st.runStart.map f
  runTaps := st.runTaps

variable [Counter α] [Counter β]

/-- A change of readings keeps the answers to all that a press may ask: whether it comes soon
after the latest press and, when the machine counts a run, soon after the first press of it.
-/
structure KeepsWindows (f : α → β) (s : Settings) (now : α) (st : State α) : Prop where
  last
    : isWithin (f now) s.timeout (st.lastPress.map f) = isWithin now s.timeout st.lastPress
  run
    : ∀ {taps term},
        s.policy = .multiTap taps term
        → st.mode = .idle
        → isWithin (f now) term (st.runStart.map f) = isWithin now term st.runStart

/-- A press does the same on changed readings, by cases on what it does. -/
theorem Pressed.map {f : α → β} {s : Settings} {now : α} {st after : State α}
    {decision : Decision} (pressed : Pressed s now st decision after)
    (keeps : st.KeepsWindows f s now)
    : Pressed s (f now) (st.map f) decision (after.map f) := by
  cases pressed with
  | stay soon => exact .stay (keeps.last.trans soon)
  | unlatch policy late => exact .unlatch policy (keeps.last.trans late)
  | restart policy late => exact .restart policy (keeps.last.trans late)
  | latch policy soon => exact .latch policy (keeps.last.trans soon)
  | wait policy late => exact .wait policy (keeps.last.trans late)
  | complete policy soon enough =>
      exact .complete policy ((keeps.run policy rfl).trans soon) enough
  | proceed policy soon short =>
      exact .proceed policy ((keeps.run policy rfl).trans soon) short
  | begin policy late => exact .begin policy ((keeps.run policy rfl).trans late)

/-- Changing the readings before a press is the same as changing them after it. -/
theorem press_map {f : α → β} {s : Settings} {now : α} {st : State α}
    (keeps : st.KeepsWindows f s now)
    : (st.map f).press s (f now) = ((st.press s now).1, (st.press s now).2.map f) :=
  ((pressed_press s now st).map keeps).press_eq

end EscapeKey.Tap.State
