import EscapeKey.Action
import EscapeKey.Host.Guard
import EscapeKey.Tap

/-! The engine of the escape key. A press of the trigger is answered by the first override rule
that matches the held modifiers, or else by its timing; other keys pass through.
-/

namespace EscapeKey

/-- An engine whose times are readings of type `τ`. -/
structure Engine (τ : Type) where
  trigger : Key
  /-- The override rules in priority order. -/
  rules : List Override.Rule
  settings : Tap.Settings
  tap : Tap.State τ
deriving DecidableEq, Repr

namespace Engine

inductive Source where
  | rule (name : String)
  | tap (decision : Tap.Decision)
deriving DecidableEq, Repr

def Source.text : Source → String
  | .rule name => "override " ++ name
  | .tap decision => decision.text

/-- A combo that was sent to the host, and why. -/
structure Emission where
  source : Source
  combo : Combo
deriving DecidableEq, Repr

/-- The combo and, in brackets, its source. -/
def Emission.text (e : Emission) : String :=
  e.combo.text ++ " (" ++ e.source.text ++ ")"

/-- What became of a key event. -/
inductive Result where
  /-- The event is not for the engine, and the caller goes on with it. -/
  | passthrough
  /-- The event was for the engine, which may have emitted a combo. -/
  | handled (emission : Option Emission)
deriving DecidableEq, Repr

namespace Result

/-- The caller goes on with the event. -/
def continues (r : Result) : Bool :=
  r == passthrough

/-- The combo that was emitted, with its source. -/
def emission? : Result → Option Emission
  | passthrough => none
  | handled emission => emission

def text : Result → String
  | passthrough => "passthrough"
  | handled none => "handled"
  | handled (some emission) => emission.text

end Result

/-- What became of a key event, with the engine and the host after it. -/
structure Outcome (τ : Type) where
  result : Result
  engine : Engine τ
  host : Host
deriving DecidableEq, Repr

variable {τ : Type}

def fresh (trigger : Key) (rules : List Override.Rule) (settings : Tap.Settings) : Engine τ :=
  { trigger, rules, settings, tap := .initial }

def clear (e : Engine τ) : Engine τ :=
  { e with tap := .initial }

/-- A press of the trigger that no rule matches: the timing decides. -/
def pressTap [Counter τ] (e : Engine τ) (h : Host) (now : τ) : Outcome τ :=
  let (decision, tap) := e.tap.press e.settings now
  let combo := e.settings.combo decision
  { result := .handled (some ⟨.tap decision, combo⟩)
    engine := { e with tap }
    host := h.emit combo }

def press [Counter τ] (e : Engine τ) (h : Host) (now : τ) : Outcome τ :=
  match Override.resolve e.rules h.mods with
  | some rule =>
    { result := .handled (some ⟨.rule rule.name, rule.emit⟩), engine := e,
      host := h.applyRule rule }
  | none => e.pressTap h now

/-- One key event at the given reading. Only presses of the trigger emit; its releases and
repetitions are swallowed.
-/
def process [Counter τ] (e : Engine τ) (h : Host) (now : τ) (key : Key) (action : Action)
    : Outcome τ :=
  if key ≠ e.trigger then ⟨.passthrough, e, h⟩
  else if action.isPress then e.press h now
  else ⟨.handled none, e, h⟩

end Engine

end EscapeKey
