import EscapeKey.Combo.Spelling
import EscapeKey.Config
import EscapeKey.Config.Settings

/-! Checking settings. Whatever is left out has its standard value, and the first check that fails
decides the error: the trigger, the timing, and then the override rules one by one.
-/

namespace EscapeKey.Config

inductive TimeEntry where
  | timeout
  | term
deriving DecidableEq, Repr

inductive ComboEntry where
  | single
  | repeated
deriving DecidableEq, Repr

inductive ModifierEntry where
  | required
  | suppress
deriving DecidableEq, Repr

/-- Why settings are not valid. -/
inductive Error where
  /-- No key has this name. -/
  | unknownTrigger (name : String)
  | timeOutOfRange (entry : TimeEntry) (milliseconds : UInt32)
  | tapsOutOfRange (taps : UInt8)
  | invalidTapCombo (entry : ComboEntry) (fault : Combo.SpellingError)
  | unknownRuleModifier (rule : String) (entry : ModifierEntry) (fault : Combo.UnknownModifier)
  /-- The rule requires no modifier and would never match. -/
  | nothingRequired (rule : String)
  | invalidRuleCombo (rule : String) (fault : Combo.SpellingError)
deriving DecidableEq, Repr

def TimeEntry.name : TimeEntry → String
  | .timeout => "tap.timeout_ms"
  | .term => "tap.tapping_term_ms"

def ComboEntry.name : ComboEntry → String
  | .single => "tap.single_tap"
  | .repeated => "tap.repeat_tap"

def ModifierEntry.name : ModifierEntry → String
  | .required => "when"
  | .suppress => "suppress"

/-- The least and the greatest time that may be set, in milliseconds. -/
def timeRange : Nat × Nat := (1, 60000)

/-- The least and the greatest number of taps that may be set. -/
def tapsRange : Nat × Nat := (2, 16)

def Error.message : Error → String
  | .unknownTrigger name => "Invalid key: " ++ name
  | .timeOutOfRange entry milliseconds =>
    "Timeout value out of range: " ++ entry.name ++ " must be " ++ toString timeRange.1 ++ "-"
      ++ toString timeRange.2 ++ "ms, got " ++ toString milliseconds.toNat
  | .tapsOutOfRange taps =>
    "Invalid tap count: tap.taps must be " ++ toString tapsRange.1 ++ "-"
      ++ toString tapsRange.2 ++ ", got " ++ toString taps.toNat
  | .invalidTapCombo entry fault =>
    "Invalid combo string: " ++ entry.name ++ ": " ++ fault.message
  | .unknownRuleModifier rule entry fault =>
    "Invalid modifier: rule '" ++ rule ++ "' " ++ entry.name ++ ": '" ++ fault.piece ++ "'"
  | .nothingRequired rule =>
    "Invalid modifier: rule '" ++ rule ++ "': 'when' needs at least one modifier"
  | .invalidRuleCombo rule fault =>
    "Invalid combo string: rule '" ++ rule ++ "' emit: " ++ fault.message

/-- The key that a name in the settings stands for. -/
def readTrigger (name : String) : Except Error Key :=
  match Key.ofName? name with
  | some k => .ok k
  | none => .error (.unknownTrigger (String.ofList (Text.trim name.toList)))

def checkTime (entry : TimeEntry) (milliseconds : UInt32) : Except Error UInt32 :=
  if timeRange.1 ≤ milliseconds.toNat ∧ milliseconds.toNat ≤ timeRange.2 then .ok milliseconds
  else .error (.timeOutOfRange entry milliseconds)

def checkTaps (taps : UInt8) : Except Error UInt8 :=
  if tapsRange.1 ≤ taps.toNat ∧ taps.toNat ≤ tapsRange.2 then .ok taps
  else .error (.tapsOutOfRange taps)

/-- The combo of an entry, or the standard one if it is left out. -/
def readTapCombo (entry : ComboEntry) (standard : Combo) (text : Option String)
    : Except Error Combo :=
  match text with
  | some text => (Combo.parse text).mapError (.invalidTapCombo entry)
  | none => .ok standard

end EscapeKey.Config

namespace EscapeKey.Settings

open Config (Error checkTime checkTaps readTapCombo)

/-- The policy of the timing section, where the timeout stands in for a term that is left out. -/
def Timing.readPolicy (t : Timing) (timeout : UInt32) : Except Error Tap.Policy :=
  match t.policy.getD .toggle with
  | .toggle => .ok .toggle
  | .multiTap => do
    let taps ← checkTaps (t.taps.getD Tap.defaultTaps)
    let term ← checkTime .term (t.term.getD timeout)
    return .multiTap taps term

/-- The timing that its section describes. -/
def Timing.validate (t : Timing) : Except Error Tap.Settings := do
  let timeout ← checkTime .timeout (t.timeout.getD Tap.defaultTimeout)
  let policy ← t.readPolicy timeout
  let single ← readTapCombo .single Tap.Settings.standard.single t.single
  let repeated ← readTapCombo .repeated Tap.Settings.standard.repeated t.repeated
  return { timeout, policy, single, repeated }

/-- The rule that an entry describes. -/
def RuleEntry.validate (r : RuleEntry) : Except Error Override.Rule := do
  let required ←
    (Combo.parseModifiers r.required).mapError (.unknownRuleModifier r.name .required)
  if required.isEmpty then throw (.nothingRequired r.name)
  let suppress ←
    (Combo.parseModifiers r.suppress).mapError (.unknownRuleModifier r.name .suppress)
  let emit ← (Combo.parse r.emit).mapError (.invalidRuleCombo r.name)
  return { name := r.name, required, exact := r.exact, suppress := .ofModifiers suppress, emit }

/-- The rules that the section on overrides describes: none when they are off, and the standard
ones when they are on and none are listed.
-/
def Overrides.validate (o : Overrides) : Except Error (List Override.Rule) :=
  if !o.enabled then .ok []
  else if o.rules.isEmpty then .ok Override.standard
  else o.rules.mapM RuleEntry.validate

def readTrigger (s : Settings) : Except Error Key :=
  match s.general.bind General.trigger with
  | some name => Config.readTrigger name
  | none => .ok .esc

def readTiming (s : Settings) : Except Error Tap.Settings :=
  match s.timing with
  | some t => t.validate
  | none => .ok .standard

def readRules (s : Settings) : Except Error (List Override.Rule) :=
  match s.overrides with
  | some o => o.validate
  | none => .ok Override.standard

/-- The configuration that the settings describe. -/
def validate (s : Settings) : Except Error Config := do
  let trigger ← s.readTrigger
  let tap ← s.readTiming
  let rules ← s.readRules
  return { trigger, tap, rules }

end EscapeKey.Settings

namespace EscapeKey.Config

/-- Why a text describes no configuration. -/
inductive LoadError where
  /-- The text describes no settings, for the reason that its reader gives. -/
  | malformed (reason : String)
  | invalid (error : Error)
deriving DecidableEq, Repr

def LoadError.message : LoadError → String
  | .malformed reason => "TOML parse error: " ++ reason
  | .invalid error => error.message

/-- The configuration that a text describes. -/
def parse (read : Settings.Reader) (text : String) : Except LoadError Config := do
  let settings ← (read text).mapError .malformed
  settings.validate.mapError .invalid

end EscapeKey.Config
