import EscapeKey.Text.Decimal
import EscapeKey.Trace

/-! Reading traces. A trace has one event to a line: the time, the action, and then fields for the
key and the modifiers. A `#` begins a comment, blank lines are skipped, and times never go back.
-/

namespace EscapeKey.Trace

/-- What is wrong with a line by itself. -/
inductive LineFault where
  | invalidTime (text : String)
  | missingAction
  | unknownAction (text : String)
  | unknownKey (text : String)
  | invalidModifiers (text : String)
  | unexpectedField (text : String)
deriving DecidableEq, Repr

inductive Fault where
  | malformed (fault : LineFault)
  /-- The time is earlier than that of the event before. -/
  | outOfOrder (time previous : UInt64)
deriving DecidableEq, Repr

/-- A fault and the number of its line, counted from one. -/
structure Error where
  line : Nat
  fault : Fault
deriving DecidableEq, Repr

def LineFault.text : LineFault → String
  | .invalidTime text => "invalid timestamp '" ++ text ++ "'"
  | .missingAction => "missing action"
  | .unknownAction text => "unknown action '" ++ text ++ "'"
  | .unknownKey text => "unknown key '" ++ text ++ "'"
  | .invalidModifiers text => "invalid modifiers '" ++ text ++ "'"
  | .unexpectedField text => "unexpected field '" ++ text ++ "'"

def Fault.text : Fault → String
  | .malformed fault => fault.text
  | .outOfOrder time previous =>
    "timestamp " ++ toString time.toNat ++ " is earlier than " ++ toString previous.toNat

def Error.message (e : Error) : String :=
  "line " ++ toString e.line ++ ": " ++ e.fault.text

/-- The event with one more field taken into account; a field that comes twice counts as it came
last.
-/
def readField (e : Event) (field : List Char) : Except LineFault Event :=
  match Text.cut '=' field with
  | (['k', 'e', 'y'], some name) =>
    match Key.read? name with
    | some k => .ok { e with key := some k }
    | none => .error (.unknownKey (String.ofList name))
  | (['m', 'o', 'd', 's'], some list) =>
    match Mods.read? list with
    | some mods => .ok { e with mods }
    | none => .error (.invalidModifiers (String.ofList list))
  | _ => .error (.unexpectedField (String.ofList field))

/-- The event that the words of a line give, if there are any words. -/
def readWords : List (List Char) → Except LineFault (Option Event)
  | [] => .ok none
  | time :: rest =>
    match Text.readUInt64? time with
    | none => .error (.invalidTime (String.ofList time))
    | some time =>
      match rest with
      | [] => .error .missingAction
      | action :: fields =>
        match Action.read? action with
        | none => .error (.unknownAction (String.ofList action))
        | some action => do
          let plain : Event := { time, action, key := none, mods := ∅ }
          let event ← fields.foldlM readField plain
          return some event

/-- The event that a line gives, unless it is blank up to its comment. -/
def readLine (line : List Char) : Except LineFault (Option Event) :=
  readWords (Text.words (Text.cut '#' line).1)

/-- The events of the lines from number `n` on, behind an event at time `previous`. -/
def readLines (n : Nat) (previous : Option UInt64)
    : List (List Char) → Except Error (List Event)
  | [] => .ok []
  | line :: rest =>
    match readLine line with
    | .error fault => .error ⟨n, .malformed fault⟩
    | .ok none => readLines (n + 1) previous rest
    | .ok (some event) =>
      match previous with
      | some p =>
        if event.time < p then .error ⟨n, .outOfOrder event.time p⟩
        else (event :: ·) <$> readLines (n + 1) (some event.time) rest
      | none => (event :: ·) <$> readLines (n + 1) (some event.time) rest

/-- The events of a trace. A carriage return in front of a line feed is blank like any other
white space around a line.
-/
def read (s : List Char) : Except Error (List Event) :=
  readLines 1 none (s.splitOn '\n')

def parse (s : String) : Except Error (List Event) :=
  read s.toList

end EscapeKey.Trace
