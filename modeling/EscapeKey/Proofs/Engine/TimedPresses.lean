import EscapeKey.Engine
import EscapeKey.Proofs.Host.HeldMods

/-! The key events that the timing decides. All others leave the engine alone, and no event
changes the held modifiers.
-/

namespace EscapeKey.Engine

/-- The decision behind an emission, if the timing made it. -/
def Source.decision? : Source → Option Tap.Decision
  | .rule _ => none
  | .tap decision => some decision

/-- The decision of the timing on a key event, if it made one. -/
def Result.decision? (r : Result) : Option Tap.Decision :=
  r.emission?.bind (·.source.decision?)

/-- The timing decides a key event when it is a press of the trigger that no rule answers. -/
def IsTimed (trigger : Key) (rules : List Override.Rule) (held : Mods) (key : Key)
    (action : Action)
    : Prop :=
  key = trigger ∧ action = .press ∧ Override.resolve rules held = none

instance (trigger : Key) (rules : List Override.Rule) (held : Mods) (key : Key)
    (action : Action)
    : Decidable (IsTimed trigger rules held key action) :=
  inferInstanceAs (Decidable (_ ∧ _ ∧ _))

variable {τ : Type} [Counter τ]

/-- A timed event goes to the timing at its reading. -/
theorem process_of_timed (e : Engine τ) (h : Host) (now : τ) {key : Key} {action : Action}
    (timed : IsTimed e.trigger e.rules h.mods key action)
    : e.process h now key action = e.pressTap h now := by
  obtain ⟨rfl, rfl, unmatched⟩ := timed
  simp [process, Action.isPress, press, unmatched]

/-- Every other event leaves the engine as it was and the modifiers held as they were.
Witness: cases on the key, the action and the matching rule, whose guard restores.
-/
theorem process_of_not_timed (e : Engine τ) (h : Host) (now : τ) {key : Key}
    {action : Action} (untimed : ¬ IsTimed e.trigger e.rules h.mods key action)
    : ∃ result host,
        e.process h now key action = ⟨result, e, host⟩
        ∧ result.decision? = none
        ∧ host.mods = h.mods := by
  by_cases other : key = e.trigger
  case neg => exact ⟨.passthrough, h, by simp [process, other], rfl, rfl⟩
  cases action with
  | release | autoRepeat =>
      exact ⟨.handled none, h, by simp [process, other, Action.isPress], rfl, rfl⟩
  | press =>
      cases matched : Override.resolve e.rules h.mods with
      | none => exact absurd ⟨other, rfl, matched⟩ untimed
      | some rule =>
          refine ⟨.handled (some ⟨.rule rule.name, rule.emit⟩), h.applyRule rule, ?_, rfl, ?_⟩
          · simp [process, other, Action.isPress, press, matched]
          · exact Host.applyRule_mods h rule

end EscapeKey.Engine
