import EscapeKey.Engine.Session
import EscapeKey.Log.Host
import EscapeKey.Text.Padding
import EscapeKey.Trace.Replay

/-! What the tap machine, the engine and the replay of a trace log. -/

namespace EscapeKey.Log

variable {τ : Type} [Counter τ]

/-- The record of a press that the tap machine decides. -/
def ofPress (s : Tap.Settings) (now : τ) (st : Tap.State τ) : Record :=
  let (decision, after) := st.press s now
  ⟨.debug, .tap, "trigger press at " ++ toString (Counter.value now) ++ ": " ++ decision.text
    ++ " (mode " ++ after.mode.text ++ ")"⟩

def ofInputs (s : Tap.Settings) (st : Tap.State τ) : List (Tap.Input τ) → List Record
  | [] => []
  | input :: rest =>
    let first := match input with
      | .press now => [ofPress s now st]
      | .clear => []
    first ++ ofInputs s (st.step s input).2 rest

def ofKeyEvent (e : Engine τ) (h : Host) (now : τ) (key : Key) (action : Action)
    : List Record :=
  let calls := ofHosts h (e.process h now key action).host
  if key ≠ e.trigger then []
  else if action.isPress then
    match Override.resolve e.rules h.mods with
    | some rule =>
      ⟨.debug, .engine, "mods " ++ h.mods.text ++ " matched override " ++ rule.name⟩ :: calls
    | none => ofPress e.settings now e.tap :: calls
  else [⟨.trace, .engine, "trigger " ++ action.name ++ " ignored"⟩]

def ofSessionOp (s : Engine.Session τ) : Engine.Session.Op → List Record
  | .key key action => ofKeyEvent s.engine s.host s.now (key.getD s.engine.trigger) action
  | .script script => ofScript s.host script
  | _ => []

def ofSession (s : Engine.Session τ) : List Engine.Session.Op → List Record
  | [] => []
  | op :: rest =>
    let first := ofSessionOp s op
    if op.isLast then first else first ++ ofSession (s.afterSteps (s.opSteps op)) rest

/-- The records of a replayed event: those of the key event and, if it emits, the emission with
its time.
-/
def ofReplayed (e : Trace.Event) (engine : Engine τ) (host : Host) : List Record :=
  let event := ofKeyEvent engine (e.hold host) (Counter.ofMillis e.time.toNat)
    (e.key.getD engine.trigger) e.action
  match (e.replay engine host).result.emission? with
  | some emission =>
    let time := Text.padLeft 8 (toString e.time.toNat)
    event ++ [⟨.info, .trace, time ++ "ms " ++ emission.text⟩]
  | none => event

def ofReplay (engine : Engine τ) (host : Host) : List Trace.Event → List Record
  | [] => []
  | e :: rest =>
    let outcome := e.replay engine host
    ofReplayed e engine host ++ ofReplay outcome.engine outcome.host rest

end EscapeKey.Log
