import EscapeKey.Config.Validation
import EscapeKey.Log

/-! What checking settings logs: warnings about settings that have no effect or are likely
mistakes, as far as the check gets, and a summary at the end.
-/

namespace EscapeKey.Log

open Settings (Overrides RuleEntry Timing)

def configWarning (message : String) : Record :=
  ⟨.warn, .config, message⟩

/-- The policy with the names of its settings. -/
def policyText : Tap.Policy → String
  | .toggle => "Toggle"
  | .multiTap taps term =>
    "MultiTap \x7b taps: " ++ toString taps.toNat ++ ", tapping_term_ms: "
      ++ toString term.toNat ++ " \x7d"

/-- The warning about a trigger that is a modifier key. -/
def ofTrigger (trigger : Key) : List Record :=
  if (Modifier.ofKey? trigger).isSome then
    [configWarning ("trigger " ++ trigger.name ++ " is a modifier key")]
  else []

/-- The warning about multi-tap settings under another policy, once the timeout has passed. -/
def ofTiming (t : Timing) : List Record :=
  match Config.checkTime .timeout (t.timeout.getD Tap.defaultTimeout) with
  | .error _ => []
  | .ok _ =>
    if t.policy.getD .toggle = .toggle ∧ (t.taps.isSome ∨ t.term.isSome) then
      [configWarning "tap.taps and tap.tapping_term_ms only apply to policy \"multi-tap\""]
    else []

/-- The warnings about names that come again, up to the first entry that is not valid. -/
def ofRules (seen : List String) : List RuleEntry → List Record
  | [] => []
  | r :: rest =>
    let first :=
      if seen.contains r.name then
        [configWarning ("duplicate override rule name '" ++ r.name ++ "'")]
      else []
    match r.validate with
    | .ok _ => first ++ ofRules (r.name :: seen) rest
    | .error _ => first

def ofOverrides (o : Overrides) : List Record :=
  if o.enabled then ofRules [] o.rules
  else if o.rules.isEmpty then []
  else
    let count := toString o.rules.length
    [configWarning ("overrides disabled; ignoring " ++ count ++ " configured rule(s)")]

def ofConfig (c : Config) : Record :=
  ⟨.debug, .config,
    "config: trigger=" ++ c.trigger.name ++ " timeout=" ++ toString c.tap.timeout.toNat
      ++ "ms policy=" ++ policyText c.tap.policy ++ " rules=" ++ toString c.rules.length⟩

/-- The records of checking settings. -/
def ofValidation (s : Settings) : List Record :=
  match s.readTrigger with
  | .error _ => []
  | .ok trigger =>
    let named := s.general.bind Settings.General.trigger
    (if named.isSome then ofTrigger trigger else [])
      ++ (s.timing.map ofTiming).getD []
      ++ match s.readTiming with
        | .error _ => []
        | .ok _ =>
          (s.overrides.map ofOverrides).getD []
            ++ (s.validate.toOption.map ofConfig).toList

/-- The records of reading a configuration from a text. -/
def ofConfigText (read : Settings.Reader) (text : String) : List Record :=
  match read text with
  | .ok settings => ofValidation settings
  | .error _ => []

end EscapeKey.Log
