import EscapeKey.Action
import EscapeKey.Key.Names
import EscapeKey.Mods.Spelling

/-! Trace events: key transitions with their times, as they are written in a trace. -/

namespace EscapeKey.Trace

/-- A key transition at a time. -/
structure Event where
  /-- The absolute time in milliseconds. -/
  time : UInt64
  action : Action
  /-- The key, or the trigger if none is given. -/
  key : Option Key
  /-- The modifiers that are held meanwhile. -/
  mods : Mods
deriving DecidableEq, Repr

/-- The event on one line: time and action, then the key and the modifiers if there are any. -/
def Event.text (e : Event) : String :=
  toString e.time.toNat ++ " " ++ e.action.name
    ++ (match e.key with
      | some k => " key=" ++ k.name
      | none => "")
    ++ (if e.mods.isEmpty then "" else " mods=" ++ e.mods.text)

end EscapeKey.Trace
