import EscapeKey.Host.Script
import EscapeKey.Log
import EscapeKey.Mods.Spelling

/-! What the host logs: one record for each call. -/

namespace EscapeKey.Log

/-- The record of a call that finds the given modifiers held. -/
def ofCall (held : Mods) (call : Host.Event) : Record :=
  let message := match call with
    | .setMods mods => "host set_mods " ++ held.text ++ " -> " ++ mods.text
    | .tap key => "host tap " ++ key.name
    | .tapCombo combo => "host tap_combo " ++ combo.text
  ⟨.trace, .host, message⟩

/-- The records of successive calls; only a call that replaces the modifiers changes them. -/
def ofCalls (held : Mods) : List Host.Event → List Record
  | [] => []
  | call :: rest =>
    let next := match call with
      | .setMods mods => mods
      | _ => held
    ofCall held call :: ofCalls next rest

/-- The records of the calls that lead from one state of a host to a later one. -/
def ofHosts (before after : Host) : List Record :=
  ofCalls before.mods (after.events.drop before.events.length)

def ofStates (before : Host) : List Host → List Record
  | [] => []
  | after :: rest => ofHosts before after ++ ofStates after rest

def ofScript (h : Host) (script : Host.Script) : List Record :=
  ofStates h ((script.steps h).map (·.host))

end EscapeKey.Log
