import EscapeKey.Engine

/-! The configuration: all that an engine is built from. -/

namespace EscapeKey

/-- The trigger, the timing and the override rules. -/
structure Config where
  trigger : Key
  tap : Tap.Settings
  /-- The override rules in priority order; none when overrides are off. -/
  rules : List Override.Rule
deriving DecidableEq, Repr

namespace Config

/-- What holds where nothing is configured. -/
def standard : Config where
  trigger := .esc
  tap := .standard
  rules := Override.standard

def engine {τ : Type} (c : Config) : Engine τ :=
  .fresh c.trigger c.rules c.tap

/-- The rules agree one by one in all but the way their combos list the modifiers. -/
def RulesAlike : List Override.Rule → List Override.Rule → Prop
  | [], [] => True
  | r :: rs, s :: ss => r.Alike s ∧ RulesAlike rs ss
  | _, _ => False

instance RulesAlike.decidable
    : (rs ss : List Override.Rule) → Decidable (RulesAlike rs ss)
  | [], [] => isTrue trivial
  | r :: rs, s :: ss =>
    have := RulesAlike.decidable rs ss
    inferInstanceAs (Decidable (r.Alike s ∧ RulesAlike rs ss))
  | [], _ :: _ => isFalse id
  | _ :: _, [] => isFalse id

/-- Two configurations are alike when they agree in all but the way their combos list the
modifiers.
-/
def Alike (c d : Config) : Prop :=
  c.trigger = d.trigger ∧ c.tap.Alike d.tap ∧ RulesAlike c.rules d.rules

instance (c d : Config) : Decidable (c.Alike d) :=
  inferInstanceAs (Decidable (_ ∧ _ ∧ _))

end Config

end EscapeKey
