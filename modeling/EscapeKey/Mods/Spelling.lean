import EscapeKey.Mods.Held
import EscapeKey.Text.Blank

/-! How a set of held modifiers is written and read: labels joined by `+`, or `-` when nothing
is held.
-/

namespace EscapeKey.Mods

/-- The labels of the held modifier keys, joined by `+`. -/
def text (m : Mods) : String :=
  if m.isEmpty then "-" else "+".intercalate (m.sided.map Modifier.label)

/-- The modifier that one piece of a list spells, with blanks around it. -/
def readPart? (piece : List Char) : Option Modifier :=
  Modifier.ofSpelling? (String.ofList (Text.trim piece))

/-- The keys of the modifiers that a text lists; a blank text and `-` list none. -/
def read? (s : List Char) : Option Mods :=
  match Text.trim s with
  | [] | ['-'] => some ∅
  | trimmed => ((trimmed.splitOn '+').mapM readPart?).map ofModifiers

def parse? (s : String) : Option Mods :=
  read? s.toList

end EscapeKey.Mods
