import EscapeKey.Log
import EscapeKey.Trace.Reading

/-! What reading a trace logs. -/

namespace EscapeKey.Log

/-- The records of reading a trace: the number of its events, unless it has a fault. -/
def ofReading (read : Except Trace.Error (List Trace.Event)) : List Record :=
  match read with
  | .ok events =>
    [⟨.debug, .trace, "parsed " ++ toString events.length ++ " trace events"⟩]
  | .error _ => []

end EscapeKey.Log
