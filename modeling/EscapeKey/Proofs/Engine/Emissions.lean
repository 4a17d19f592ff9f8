import Mathlib.Data.List.Forall2
import EscapeKey.Proofs.Engine.Runs
import EscapeKey.Proofs.Host.Calls

/-! Every press of the trigger is answered by one emission. What a run of the engine reports as
emitted is what the host has recorded, combo by combo and in the same order, and key events without
an emission do not reach the host.
-/

namespace EscapeKey.Engine

variable {τ : Type}

/-- The emissions that a run reports, in order. -/
def Run.emissions (r : Run τ) : List Emission :=
  r.results.filterMap (·.bind Result.emission?)

/-- The result fits the input. A key event has one, which says that the caller goes on with the
event exactly if it is one of another key, and which carries an emission exactly if it is a press
of the trigger.
-/
def Input.IsAnsweredBy (trigger : Key) : Input τ → Option Result → Prop
  | .hold _, result | .clear, result => result = none
  | .event _ key action, result =>
    ∃ answer,
      result = some answer
      ∧ (answer.continues = true ↔ key ≠ trigger)
      ∧ (answer.emission?.isSome = true ↔ key = trigger ∧ action = .press)

variable [Counter τ]

-----------------------------------------------------------------------------------------
-- One key event
-----------------------------------------------------------------------------------------

/-- All that a key event can do: it passes through, is swallowed, or emits a combo, which the
result and the host agree on.
-/
theorem process_cases (e : Engine τ) (h : Host) (now : τ) (key : Key) (action : Action)
    : (key ≠ e.trigger ∧ e.process h now key action = ⟨.passthrough, e, h⟩)
      ∨ (key = e.trigger ∧ action ≠ .press ∧ e.process h now key action = ⟨.handled none, e, h⟩)
      ∨ (key = e.trigger ∧ action = .press
        ∧ ∃ emission tap host,
            e.process h now key action = ⟨.handled (some emission), { e with tap }, host⟩
            ∧ host.mods = h.mods
            ∧ host.emissions = h.emissions ++ [emission.combo]) := by
  by_cases other : key = e.trigger
  case neg => exact .inl ⟨other, by simp [process, other]⟩
  cases action with
  | release | autoRepeat =>
      refine .inr (.inl ⟨other, by decide, ?_⟩)
      simp [process, other, Action.isPress]
  | press =>
      refine .inr (.inr ⟨other, rfl, ?_⟩)
      cases matched : Override.resolve e.rules h.mods with
      | some rule =>
          refine ⟨⟨.rule rule.name, rule.emit⟩, e.tap, h.applyRule rule, ?_, ?_, ?_⟩
          · simp [process, other, Action.isPress, press, matched]
          · exact Host.applyRule_mods h rule
          · exact Host.applyRule_emissions h rule
      | none =>
          let pressed := e.tap.press e.settings now
          let combo := e.settings.combo pressed.1
          refine ⟨⟨.tap pressed.1, combo⟩, pressed.2, h.emit combo, ?_, ?_, ?_⟩
          · rw [process_of_timed e h now ⟨other, rfl, matched⟩]
            rfl
          · exact Host.emit_mods h combo
          · exact Host.emit_emissions h combo

/-- A key event changes nothing on the host unless it emits, and never the held modifiers. -/
theorem process_host (e : Engine τ) (h : Host) (now : τ) (key : Key) (action : Action)
    : ((e.process h now key action).result.emission? = none
        → (e.process h now key action).host = h)
      ∧ (e.process h now key action).host.mods = h.mods := by
  rcases e.process_cases h now key action with
    ⟨_, passed⟩ | ⟨_, _, swallowed⟩ | ⟨_, _, emission, tap, host, emitted, same, _⟩
  · rw [passed]
    exact ⟨fun _ => rfl, rfl⟩
  · rw [swallowed]
    exact ⟨fun _ => rfl, rfl⟩
  · rw [emitted]
    exact ⟨nofun, same⟩

-----------------------------------------------------------------------------------------
-- Whole runs
-----------------------------------------------------------------------------------------

/-- A step keeps the trigger, answers its input, and has its emission recorded by the host. -/
theorem step_emission (e : Engine τ) (h : Host) (input : Input τ)
    : (e.step h input).engine.trigger = e.trigger
      ∧ input.IsAnsweredBy e.trigger (e.step h input).result
      ∧ (e.step h input).host.emissions
        = h.emissions
          ++ ((e.step h input).result.bind Result.emission?).toList.map (·.combo) := by
  cases input with
  | hold mods => exact ⟨rfl, rfl, (Host.holdMods_emissions h mods).trans (List.append_nil _).symm⟩
  | clear => exact ⟨rfl, rfl, (List.append_nil _).symm⟩
  | event now key action =>
      simp only [step, Input.IsAnsweredBy, Option.some.injEq, exists_eq_left', Option.bind_some]
      rcases e.process_cases h now key action with
        ⟨other, passed⟩ | ⟨same, unpressed, swallowed⟩
        | ⟨same, pressed, emission, tap, host, emitted, _, recorded⟩
      · rw [passed]
        simp [other, Result.continues, Result.emission?]
      · rw [swallowed]
        simp [same, unpressed, Result.continues, Result.emission?]
      · rw [emitted]
        simp [same, pressed, recorded, Result.continues, Result.emission?]

/-- The results of a run answer its inputs one by one, by induction on the inputs. -/
theorem run_answers (e : Engine τ) (h : Host) (inputs : List (Input τ))
    : inputs.Forall₂ (Input.IsAnsweredBy e.trigger) (e.run h inputs).results := by
  induction inputs generalizing e h with
  | nil => exact .nil
  | cons input rest ih =>
      obtain ⟨trigger, answered, _⟩ := e.step_emission h input
      have later := ih (e.step h input).engine (e.step h input).host
      rw [trigger] at later
      exact .cons answered later

/-- The host records the emissions that the results carry, by induction on the inputs. -/
theorem run_recorded (e : Engine τ) (h : Host) (inputs : List (Input τ))
    : (e.run h inputs).host.emissions
      = h.emissions ++ (e.run h inputs).emissions.map (·.combo) := by
  induction inputs generalizing e h with
  | nil => exact (List.append_nil _).symm
  | cons input rest ih =>
      obtain ⟨_, _, recorded⟩ := e.step_emission h input
      have split : (e.run h (input :: rest)).emissions
          = ((e.step h input).result.bind Result.emission?).toList
            ++ ((e.step h input).engine.run (e.step h input).host rest).emissions := by
        rw [Run.emissions, run, List.filterMap_cons]
        cases (e.step h input).result.bind Result.emission? <;> rfl
      rw [split, List.map_append, ← List.append_assoc, ← recorded]
      exact ih (e.step h input).engine (e.step h input).host

/-- No emission is lost, doubled or moved. The combos that the host records in a run are those of
the emissions in its results, in order; a result carries an emission exactly for a press of the
trigger, and the caller goes on exactly with the events of other keys. At every point of a run, a
key event that emits nothing leaves the host as it is, and none changes the held modifiers.
-/
theorem run_emissions (e : Engine τ) (h : Host) (inputs : List (Input τ))
    : let r := e.run h inputs
      r.host.emissions = h.emissions ++ r.emissions.map (·.combo)
      ∧ inputs.Forall₂ (Input.IsAnsweredBy e.trigger) r.results
      ∧ ∀ now key action,
          let o := r.engine.process r.host now key action
          (o.result.emission? = none → o.host = r.host) ∧ o.host.mods = r.host.mods := by
  intro r
  exact ⟨e.run_recorded h inputs, e.run_answers h inputs, r.engine.process_host r.host⟩

/-- Two presses that the timing decides and between them one that a rule answers with the shift key
let go. A release and another key emit nothing, nor does a repeat of the trigger behind them, which
leaves the host as it is.
-/
theorem run_emissions_mixed
    : let shift : Mods := (⟨.shift, .right⟩ : Modifier).mask
      let e : Engine (BitVec 16) := .fresh .esc Override.standard .standard
      let inputs : List (Input (BitVec 16)) :=
        [.event 65500 .esc .press, .event 65530 .esc .release, .hold shift,
          .event 20 .esc .press, .event 30 .leftCtrl .press, .hold ∅, .event 400 .esc .press]
      let r := e.run .idle inputs
      r.emissions.map (·.source)
        = [.tap .singleTap, .rule "shift-grave", .tap .repeatTap]
      ∧ r.host.emissions = [.bare .esc, .bare .grave, .bare .grave]
      ∧ (r.engine.process r.host 500 .esc .autoRepeat).result.emission? = none
      ∧ (r.engine.process r.host 500 .esc .autoRepeat).host = r.host := by
  intro shift e inputs r
  obtain ⟨recorded, _, next⟩ := run_emissions e .idle inputs
  have silent : (r.engine.process r.host 500 .esc .autoRepeat).result.emission? = none := by
    decide
  have combos : r.emissions.map (·.combo) = [.bare .esc, .bare .grave, .bare .grave] := by
    decide
  refine ⟨by decide, ?_, silent, (next 500 .esc .autoRepeat).1 silent⟩
  rw [recorded, combos]
  rfl

end EscapeKey.Engine
