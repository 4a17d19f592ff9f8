/-! The transitions of a physical key. -/

namespace EscapeKey

/-- What a key does: it goes up, goes down, or repeats because it stays down. -/
inductive Action where
  | release
  | press
  | autoRepeat
deriving DecidableEq, Repr

namespace Action

/-- The action of a key that is now down or now up. -/
def ofPressed (down : Bool) : Action :=
  if down then press else release

/-- The number of the action in an input event. -/
def toInt : Action → Int
  | release => 0
  | press => 1
  | autoRepeat => 2

/-- The action with the given number. -/
def ofInt? : Int → Option Action
  | 0 => some release
  | 1 => some press
  | 2 => some autoRepeat
  | _ => none

def isPress (a : Action) : Bool :=
  a == press

/-- The key is down, freshly or still. -/
def isDown (a : Action) : Bool :=
  a == press || a == autoRepeat

def isRelease (a : Action) : Bool :=
  a == release

def name : Action → String
  | release => "release"
  | press => "press"
  | autoRepeat => "repeat"

/-- Every name that is read, in lower case. -/
def names : List (String × Action) :=
  [("press", press), ("down", press), ("release", release), ("up", release),
    ("repeat", autoRepeat)]

/-- The action that a text names; ASCII letters may stand in either case. -/
def read? (s : List Char) : Option Action :=
  names.lookup (String.ofList (s.map Char.toLower))

end Action

end EscapeKey
