import EscapeKey.Key
import EscapeKey.Text.Blank
import EscapeKey.Text.Uppercase

/-! Key names. A code may have several names; the first one listed is its canonical name, and
the others are read but never written.
-/

namespace EscapeKey.Key

/-- Every key name with its code, the canonical name first for each code. -/
def names : List (String × UInt16) :=
  [("RESERVED", 0), ("ESC", 1), ("ESCAPE", 1), ("KEY_1", 2), ("1", 2), ("KEY_2", 3),
    ("2", 3), ("KEY_3", 4), ("3", 4), ("KEY_4", 5), ("4", 5), ("KEY_5", 6), ("5", 6),
    ("KEY_6", 7), ("6", 7), ("KEY_7", 8), ("7", 8), ("KEY_8", 9), ("8", 9),
    ("KEY_9", 10), ("9", 10), ("KEY_0", 11), ("0", 11), ("MINUS", 12), ("EQUAL", 13),
    ("BACKSPACE", 14), ("TAB", 15), ("Q", 16), ("W", 17), ("E", 18), ("R", 19),
    ("T", 20), ("Y", 21), ("U", 22), ("I", 23), ("O", 24), ("P", 25), ("LEFT_BRACE", 26),
    ("RIGHT_BRACE", 27), ("ENTER", 28), ("LEFT_CTRL", 29), ("A", 30), ("S", 31),
    ("D", 32), ("F", 33), ("G", 34), ("H", 35), ("J", 36), ("K", 37), ("L", 38),
    ("SEMICOLON", 39), ("APOSTROPHE", 40), ("GRAVE", 41), ("GRV", 41), ("BACKTICK", 41),
    ("LEFT_SHIFT", 42), ("BACKSLASH", 43), ("Z", 44), ("X", 45), ("C", 46), ("V", 47),
    ("B", 48), ("N", 49), ("M", 50), ("COMMA", 51), ("DOT", 52), ("SLASH", 53),
    ("RIGHT_SHIFT", 54), ("LEFT_ALT", 56), ("SPACE", 57), ("CAPSLOCK", 58), ("F1", 59),
    ("F2", 60), ("F3", 61), ("F4", 62), ("F5", 63), ("F6", 64), ("F7", 65), ("F8", 66),
    ("F9", 67), ("F10", 68), ("F11", 87), ("F12", 88), ("RIGHT_CTRL", 97),
    ("RIGHT_ALT", 100), ("HOME", 102), ("UP", 103), ("PAGE_UP", 104), ("LEFT", 105),
    ("RIGHT", 106), ("END", 107), ("DOWN", 108), ("PAGE_DOWN", 109), ("INSERT", 110),
    ("DELETE", 111), ("LEFT_META", 125), ("RIGHT_META", 126), ("F13", 183), ("F14", 184),
    ("F15", 185), ("F16", 186), ("F17", 187), ("F18", 188), ("F19", 189), ("F20", 190)]

def name? (k : Key) : Option String :=
  (names.find? (·.2 == k.code)).map (·.1)

/-- The canonical name, or a placeholder that no key is read from. -/
def name (k : Key) : String :=
  k.name?.getD "UNKNOWN"

/-- A key is named when the table lists its code. -/
def Named (k : Key) : Prop :=
  ∃ entry ∈ names, entry.2 = k.code

instance (k : Key) : Decidable k.Named :=
  inferInstanceAs (Decidable (∃ entry ∈ names, entry.2 = k.code))

/-- The key that a text spells: blanks around it and the case of its letters are free. -/
def read? (s : List Char) : Option Key := do
  let spelled ← Text.upper? (Text.trim s)
  let entry ← names.find? (·.1 == String.ofList spelled)
  return ⟨entry.2⟩

/-- The key with the given name, in any case and with blanks around it. -/
def ofName? (s : String) : Option Key :=
  read? s.toList

end EscapeKey.Key
