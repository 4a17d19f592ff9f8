import EscapeKey.Key
import EscapeKey.Mods.Basic

/-! Modifiers. A modifier has a kind and a side; one that names no side is generic and is
satisfied by the key of either side.
-/

namespace EscapeKey

inductive Modifier.Kind where
  | control
  | shift
  | alt
  | gui
deriving DecidableEq, Repr

/-- The side of the keyboard a modifier asks for. -/
inductive Modifier.Side where
  | either
  | left
  | right
deriving DecidableEq, Repr

/-- A modifier that a combo or a rule asks for. -/
structure Modifier where
  kind : Modifier.Kind
  side : Modifier.Side
deriving DecidableEq, Repr

namespace Modifier

def Kind.all : List Kind :=
  [.control, .shift, .alt, .gui]

def Kind.leftBit : Kind → BitVec 8
  | .control => 0x01#8
  | .shift => 0x02#8
  | .alt => 0x04#8
  | .gui => 0x08#8

def Kind.rightBit : Kind → BitVec 8
  | .control => 0x10#8
  | .shift => 0x20#8
  | .alt => 0x40#8
  | .gui => 0x80#8

def Kind.leftKey : Kind → Key
  | .control => .leftCtrl
  | .shift => .leftShift
  | .alt => .leftAlt
  | .gui => .leftMeta

def Kind.rightKey : Kind → Key
  | .control => .rightCtrl
  | .shift => .rightShift
  | .alt => .rightAlt
  | .gui => .rightMeta

/-- The modifier of a kind that names no side. -/
def generic (k : Kind) : Modifier :=
  ⟨k, .either⟩

/-- Every modifier, by kind, the generic one first. -/
def all : List Modifier :=
  Kind.all.flatMap fun k => [⟨k, .either⟩, ⟨k, .left⟩, ⟨k, .right⟩]

def generics : List Modifier :=
  Kind.all.map generic

/-- A modifier that names its side belongs to a single key. -/
def isSided (m : Modifier) : Bool :=
  m.side != .either

/-- The modifiers that name their side, one for each modifier key. -/
def sided : List Modifier :=
  all.filter isSided

/-- The bits of the keys that satisfy the modifier. -/
def mask (m : Modifier) : Mods :=
  match m.side with
  | .either => ⟨m.kind.leftBit ||| m.kind.rightBit⟩
  | .left => ⟨m.kind.leftBit⟩
  | .right => ⟨m.kind.rightBit⟩

/-- The keys that satisfy the modifier. -/
def keys (m : Modifier) : List Key :=
  match m.side with
  | .either => [m.kind.leftKey, m.kind.rightKey]
  | .left => [m.kind.leftKey]
  | .right => [m.kind.rightKey]

/-- The key to press when the modifier is wanted and none of its keys is down. -/
def key (m : Modifier) : Key :=
  match m.side with
  | .either | .left => m.kind.leftKey
  | .right => m.kind.rightKey

/-- The sided modifier that a modifier key stands for. -/
def ofKey? (k : Key) : Option Modifier :=
  sided.find? (·.key == k)

def name (m : Modifier) : String :=
  let side := match m.side with
    | .either => ""
    | .left => "L_"
    | .right => "R_"
  let kind := match m.kind with
    | .control => "CONTROL"
    | .shift => "SHIFT"
    | .alt => "ALT"
    | .gui => "META"
  side ++ kind

/-- The label that is written for the modifier. -/
def label : Modifier → String
  | ⟨.control, .either⟩ => "Ctrl"
  | ⟨.control, .left⟩ => "LCtrl"
  | ⟨.control, .right⟩ => "RCtrl"
  | ⟨.shift, .either⟩ => "Shift"
  | ⟨.shift, .left⟩ => "LShift"
  | ⟨.shift, .right⟩ => "RShift"
  | ⟨.alt, .either⟩ => "Alt"
  | ⟨.alt, .left⟩ => "LAlt"
  | ⟨.alt, .right⟩ => "RAlt"
  | ⟨.gui, .either⟩ => "Cmd"
  | ⟨.gui, .left⟩ => "LCmd"
  | ⟨.gui, .right⟩ => "RCmd"

/-- The further spellings that are read besides the label and the canonical name. -/
def otherAliases : Modifier → List String
  | ⟨.control, .either⟩ => ["C", "Control"]
  | ⟨.control, .left⟩ => ["LC"]
  | ⟨.control, .right⟩ => ["RC"]
  | ⟨.shift, .either⟩ => ["S"]
  | ⟨.shift, .left⟩ => []
  | ⟨.shift, .right⟩ => []
  | ⟨.alt, .either⟩ => ["A", "Opt", "Option"]
  | ⟨.alt, .left⟩ => ["LA", "LOpt", "LOption"]
  | ⟨.alt, .right⟩ => ["RA", "ROpt", "ROption"]
  | ⟨.gui, .either⟩ => ["Command", "Gui", "Super", "Win", "Meta", "G"]
  | ⟨.gui, .left⟩ => ["LCommand", "LGui", "LSuper", "LWin", "LMeta"]
  | ⟨.gui, .right⟩ => ["RCommand", "RGui", "RSuper", "RWin", "RMeta"]

/-- The aliases, the label first. -/
def aliases (m : Modifier) : List String :=
  m.label :: m.otherAliases

/-- The modifier with the given canonical name. -/
def ofName? (s : String) : Option Modifier :=
  all.find? (·.name == s)

/-- The modifier that a text spells: a canonical name, or else an alias, in exactly this
case.
-/
def ofSpelling? (s : String) : Option Modifier :=
  ofName? s <|> all.find? (·.aliases.contains s)

end Modifier

end EscapeKey
