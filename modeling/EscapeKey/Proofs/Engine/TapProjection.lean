import EscapeKey.Proofs.Engine.Runs
import EscapeKey.Proofs.Tap.Runs

/-! The timing of an engine is the bare tap machine, run on the presses that the timing decides
and on the clears. All other events may be added to a run or left out of it.
-/

namespace EscapeKey.Engine

variable {τ : Type}

-----------------------------------------------------------------------------------------
-- What the tap machine sees of a run
-----------------------------------------------------------------------------------------

/-- What the tap machine sees of an input while the given modifiers are held. -/
def Input.timed? (trigger : Key) (rules : List Override.Rule) (held : Mods)
    : Input τ → Option (Tap.Input τ)
  | .hold _ => none
  | .clear => some .clear
  | .event now key action =>
    if IsTimed trigger rules held key action then some (.press now) else none

/-- What the tap machine sees of a list of inputs, from the modifiers held before them. -/
def timedInputs (trigger : Key) (rules : List Override.Rule) (held : Mods)
    : List (Input τ) → List (Tap.Input τ)
  | [] => []
  | input :: rest =>
    (input.timed? trigger rules held).toList
      ++ timedInputs trigger rules (input.heldAfter held) rest

/-- A key event that the tap machine does not see: one of another key, a release or repetition
of the trigger, or a press that a rule answers.
-/
def Input.IsSilent (trigger : Key) (rules : List Override.Rule) (held : Mods)
    : Input τ → Prop
  | .hold _ | .clear => False
  | .event _ key action => ¬ IsTimed trigger rules held key action

instance (trigger : Key) (rules : List Override.Rule) (held : Mods)
    : (input : Input τ) → Decidable (input.IsSilent trigger rules held)
  | .hold _ | .clear => isFalse id
  | .event _ _ _ => inferInstanceAs (Decidable (¬ _))

/-- An input of a run that is marked as extra or as remaining. -/
structure Marked (τ : Type) where
  input : Input τ
  extra : Bool
deriving DecidableEq, Repr

/-- The inputs that remain without the extra ones. -/
def remaining (marked : List (Marked τ)) : List (Input τ) :=
  (marked.filter (!·.extra)).map (·.input)

/-- The answers to the inputs that remain, out of the answers to all of them. -/
def remainingAnswers (marked : List (Marked τ)) (answers : List (Option Tap.Decision))
    : List (Option Tap.Decision) :=
  ((marked.zip answers).filter (!·.1.extra)).map (·.2)

variable [Counter τ]

/-- Every extra input is a silent event where the run of all inputs comes to it. -/
def ExtrasSilent (e : Engine τ) (h : Host) : List (Marked τ) → Prop
  | [] => True
  | m :: rest =>
    (m.extra = true → m.input.IsSilent e.trigger e.rules h.mods)
    ∧ ExtrasSilent (e.step h m.input).engine (e.step h m.input).host rest

instance ExtrasSilent.decidable (e : Engine τ) (h : Host)
    : (marked : List (Marked τ)) → Decidable (e.ExtrasSilent h marked)
  | [] => isTrue trivial
  | m :: rest =>
    have := ExtrasSilent.decidable (e.step h m.input).engine (e.step h m.input).host rest
    inferInstanceAs (Decidable ((_ → _) ∧ ExtrasSilent _ _ rest))

-----------------------------------------------------------------------------------------
-- One input
-----------------------------------------------------------------------------------------

/-- A step is one of the tap machine where it sees the input and changes nothing of the engine
where it does not; the held modifiers change with the user only.
-/
theorem step_spec (e : Engine τ) (h : Host) (input : Input τ)
    : (e.step h input).host.mods = input.heldAfter h.mods
      ∧ (e.step h input).engine
        = { e with
            tap := e.tap.run e.settings (input.timed? e.trigger e.rules h.mods).toList }
      ∧ (e.step h input).decision?
        = (input.timed? e.trigger e.rules h.mods).bind
            (fun seen => (e.tap.step e.settings seen).1) := by
  cases input with
  | hold mods => exact ⟨rfl, rfl, rfl⟩
  | clear => exact ⟨rfl, rfl, rfl⟩
  | event now key action =>
      by_cases timed : IsTimed e.trigger e.rules h.mods key action
      · have outcome := process_of_timed e h now timed
        simp only [step, outcome, Input.timed?, timed, if_true, Input.heldAfter]
        exact ⟨Host.emit_mods h _, rfl, rfl⟩
      · obtain ⟨result, host, outcome, undecided, same⟩ := process_of_not_timed e h now timed
        simp only [step, outcome, Input.timed?, timed, if_false, Input.heldAfter]
        exact ⟨same, rfl, undecided⟩

/-- A silent event changes neither the engine nor the held modifiers. -/
theorem step_of_silent (e : Engine τ) (h : Host) {input : Input τ}
    (silent : input.IsSilent e.trigger e.rules h.mods)
    : (e.step h input).engine = e ∧ (e.step h input).host.mods = h.mods := by
  obtain ⟨mods, engine, _⟩ := e.step_spec h input
  cases input with
  | hold | clear => exact silent.elim
  | event now key action =>
      rw [Input.timed?, if_neg silent] at engine
      exact ⟨engine, mods⟩

/-- Of the host, a step of the engine and its decision depend on the held modifiers only. -/
theorem step_congr (e : Engine τ) {h other : Host} (same : h.mods = other.mods)
    (input : Input τ)
    : (e.step h input).engine = (e.step other input).engine
      ∧ (e.step h input).decision? = (e.step other input).decision?
      ∧ (e.step h input).host.mods = (e.step other input).host.mods := by
  obtain ⟨mods, engine, decision⟩ := e.step_spec h input
  obtain ⟨mods', engine', decision'⟩ := e.step_spec other input
  rw [same] at mods engine decision
  exact ⟨engine.trans engine'.symm, decision.trans decision'.symm, mods.trans mods'.symm⟩

-----------------------------------------------------------------------------------------
-- Whole runs
-----------------------------------------------------------------------------------------

/-- The held modifiers after a run are those that the user held last, by induction on the
inputs.
-/
theorem run_mods (e : Engine τ) (h : Host) (inputs : List (Input τ))
    : (e.run h inputs).host.mods
      = inputs.foldl (fun held input => input.heldAfter held) h.mods := by
  induction inputs generalizing e h with
  | nil => rfl
  | cons input rest ih =>
      have mods := (e.step_spec h input).1
      simp only [run, List.foldl_cons, ih, mods]

/-- After a run all of the engine but its timing is as before, and the timing is that of the tap
machine, by induction on the inputs.
-/
theorem run_engine (e : Engine τ) (h : Host) (inputs : List (Input τ))
    : (e.run h inputs).engine
      = { e with
          tap := e.tap.run e.settings (timedInputs e.trigger e.rules h.mods inputs) } := by
  induction inputs generalizing e h with
  | nil => rfl
  | cons input rest ih =>
      obtain ⟨mods, engine, _⟩ := e.step_spec h input
      simp only [run, timedInputs, Tap.State.run_append, ih, mods, engine]

/-- The decisions of a run are those of the tap machine, by induction on the inputs. -/
theorem run_decisions (e : Engine τ) (h : Host) (inputs : List (Input τ))
    : (e.run h inputs).decisions
      = e.tap.decisions e.settings (timedInputs e.trigger e.rules h.mods inputs) := by
  induction inputs generalizing e h with
  | nil => rfl
  | cons input rest ih =>
      obtain ⟨mods, engine, decision⟩ := e.step_spec h input
      let seen := (input.timed? e.trigger e.rules h.mods).toList
      let later := (e.step h input).engine.run (e.step h input).host rest
      have first : [(e.step h input).decision?].reduceOption
          = e.tap.decisions e.settings seen := by
        simp only [seen, decision]
        cases input.timed? e.trigger e.rules h.mods <;> rfl
      have tail : later.decisions
          = (e.tap.run e.settings seen).decisions e.settings
              (timedInputs e.trigger e.rules (input.heldAfter h.mods) rest) := by
        simp only [later, seen, ih, mods, engine]
      calc (e.run h (input :: rest)).decisions
        _ = [(e.step h input).decision?].reduceOption ++ later.decisions :=
          List.reduceOption_append [_] _
        _ = e.tap.decisions e.settings
              (timedInputs e.trigger e.rules h.mods (input :: rest)) := by
          rw [first, tail, timedInputs, Tap.State.decisions_append]

/-- Without silent events a run ends with the same timing and answers the remaining inputs in
the same way. Witness: induction on the inputs, where the two runs have the same engine and the
same held modifiers but different records on the host.
-/
theorem run_remaining (e : Engine τ) {h other : Host} (same : h.mods = other.mods)
    (marked : List (Marked τ)) (silent : e.ExtrasSilent h marked)
    : (e.run other (remaining marked)).engine = (e.run h (marked.map (·.input))).engine
      ∧ (e.run other (remaining marked)).answers
        = remainingAnswers marked (e.run h (marked.map (·.input))).answers := by
  induction marked generalizing e h other with
  | nil => exact ⟨rfl, rfl⟩
  | cons m rest ih =>
      obtain ⟨input, extra⟩ := m
      cases extra with
      | true =>
          obtain ⟨engine, mods⟩ := e.step_of_silent h (silent.1 rfl)
          have later := silent.2
          rw [engine] at later
          obtain ⟨ends, answers⟩ := ih e (mods.trans same) later
          simp only [List.map_cons, run, engine]
          exact ⟨ends, answers⟩
      | false =>
          obtain ⟨engine, decision, mods⟩ := e.step_congr same input
          obtain ⟨ends, answers⟩ := ih (e.step h input).engine mods silent.2
          simp only [remaining, List.filter_cons, Bool.not_false, if_true, List.map_cons, run,
            ← engine]
          exact ⟨ends, congrArg₂ List.cons decision.symm answers⟩

/-- For its timing a run of an engine is a run of the bare tap machine on the clears and on the
presses of the trigger that no rule answers at the modifiers then held, which are those that the
user held last. Silent events, however many and wherever they stand, may be added or left out:
that changes no answer to another input and nothing of the timing.
-/
theorem run_tapProjection (e : Engine τ) (h : Host)
    : (∀ inputs : List (Input τ),
        (e.run h inputs).host.mods
            = inputs.foldl (fun held input => input.heldAfter held) h.mods
          ∧ (e.run h inputs).engine.tap
            = e.tap.run e.settings (timedInputs e.trigger e.rules h.mods inputs)
          ∧ (e.run h inputs).decisions
            = e.tap.decisions e.settings (timedInputs e.trigger e.rules h.mods inputs))
      ∧ ∀ marked : List (Marked τ),
          e.ExtrasSilent h marked
          → (e.run h (remaining marked)).engine.tap
              = (e.run h (marked.map (·.input))).engine.tap
            ∧ (e.run h (remaining marked)).answers
              = remainingAnswers marked (e.run h (marked.map (·.input))).answers := by
  constructor
  · intro inputs
    exact ⟨e.run_mods h inputs, congrArg Engine.tap (e.run_engine h inputs),
      e.run_decisions h inputs⟩
  · intro marked silent
    obtain ⟨ends, answers⟩ := e.run_remaining rfl marked silent
    exact ⟨congrArg Engine.tap ends, answers⟩

/-- A press that the shift rule answers, a release and another key between two presses, over a
rollover of the counter: the second press still repeats the first.
-/
theorem run_tapProjection_double_tap
    : let e : Engine (BitVec 16) := .fresh .esc Override.standard .standard
      let shift : Mods := (⟨.shift, .left⟩ : Modifier).mask
      let marked : List (Marked (BitVec 16)) :=
        [⟨.event 65500 .esc .press, false⟩, ⟨.event 65530 .esc .release, true⟩,
          ⟨.hold shift, false⟩, ⟨.event 20 .esc .press, true⟩, ⟨.hold ∅, false⟩,
          ⟨.event 30000 .grave .press, true⟩, ⟨.event 400 .esc .press, false⟩]
      e.ExtrasSilent .idle marked
      ∧ (e.run .idle (remaining marked)).engine.tap
        = (e.run .idle (marked.map (·.input))).engine.tap
      ∧ (e.run .idle (remaining marked)).answers
        = [some .singleTap, none, none, some .repeatTap] := by
  intro e shift marked
  have silent : e.ExtrasSilent .idle marked := by decide
  obtain ⟨tap, answers⟩ := (run_tapProjection e .idle).2 marked silent
  exact ⟨silent, tap, answers.trans (by decide)⟩

end EscapeKey.Engine
