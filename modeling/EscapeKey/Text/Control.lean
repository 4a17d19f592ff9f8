/-! The visible part of a text: what remains without control characters and without the control
sequences of a terminal, which an escape character begins. Line ends and other blank controls
remain, and so does every character outside ASCII that stands in no sequence.
-/

namespace EscapeKey.Text

namespace Control

/-- What the next character belongs to. -/
inductive State where
  | ground
  /-- An escape sequence, behind the escape character. -/
  | escape
  /-- An escape sequence, behind an intermediate character. -/
  | escapeIntermediate
  /-- A control sequence, up to its final character. -/
  | sequence
  /-- The head of a device control string. -/
  | device
  /-- The head of a device control string, behind a parameter. -/
  | deviceParameter
  /-- The head of a device control string, behind an intermediate character. -/
  | deviceIntermediate
  /-- A control string, up to its terminator. -/
  | string
  /-- An operating system command, up to a bell. -/
  | command
deriving DecidableEq, Repr

/-- A control character that is kept as white space. -/
def isBlankControl (c : Char) : Bool :=
  c == '\t' || c == '\n' || c == '\x0c' || c == '\r'

/-- A character that is neither a control character of ASCII nor a delete. -/
def isGraphic (c : Char) : Bool :=
  ' ' ≤ c && c != '\x7f'

def isIntermediate (c : Char) : Bool :=
  ' ' ≤ c && c ≤ '/'

def isParameter (c : Char) : Bool :=
  '0' ≤ c && c ≤ '?'

/-- A parameter character that may only come first. -/
def isPrivateMark (c : Char) : Bool :=
  '<' ≤ c && c ≤ '?'

def isFinal (c : Char) : Bool :=
  '@' ≤ c && c ≤ '~'

/-- The byte that terminates a control string occurs among the bytes of the character. -/
def hasTerminator (c : Char) : Bool :=
  c.toString.toUTF8.toList.contains 0x9C

namespace State

/-- The state behind a character that directly follows the escape character. -/
def afterEscape (c : Char) : State :=
  match c with
  | '[' => sequence
  | ']' => command
  | 'P' => device
  | 'X' | '^' | '_' => string
  | c => if isIntermediate c then escapeIntermediate
    else if isParameter c || isFinal c then ground
    else escape

/-- The state behind a character in the head of a device control string. -/
def afterDevice (s : State) (c : Char) : State :=
  if isFinal c then string
  else if isIntermediate c then deviceIntermediate
  else if isParameter c then
    match s with
    | deviceParameter => if isPrivateMark c then string else deviceParameter
    | deviceIntermediate => string
    | _ => deviceParameter
  else s

/-- The state behind a character. Cancel, substitute and escape break off whatever they stand
in.
-/
def after (s : State) (c : Char) : State :=
  if c = '\x18' ∨ c = '\x1a' then ground
  else if c = '\x1b' then escape
  else match s with
    | ground => ground
    | escape => afterEscape c
    | escapeIntermediate => if isParameter c || isFinal c then ground else escapeIntermediate
    | sequence => if isFinal c then ground else sequence
    | device | deviceParameter | deviceIntermediate => s.afterDevice c
    | string => if hasTerminator c then ground else string
    | command => if c = '\x07' then ground else command

/-- The character is visible in this state. A blank control is visible in the midst of a sequence
too, though not in a string.
-/
def shows (s : State) (c : Char) : Bool :=
  match s with
  | ground => isGraphic c || isBlankControl c
  | escape | escapeIntermediate | sequence => isBlankControl c
  | _ => false

end State

/-- The visible characters of a text that begins in the given state. When a blank control has
interrupted a sequence, the text behind it is visible as if it were plain, up to the next
control character; the sequence goes on there, unless a character outside ASCII has ended it.
-/
def visibleFrom (s : State) (interrupted : Bool) : List Char → List Char
  | [] => []
  | c :: rest =>
    if interrupted && State.ground.shows c then
      c :: visibleFrom (if c.toNat < 0x80 then s else .ground) true rest
    else if s.shows c then c :: visibleFrom (s.after c) true rest
    else visibleFrom (s.after c) false rest

end Control

/-- The visible part of a text. -/
def visible (s : String) : String :=
  String.ofList (Control.visibleFrom .ground false s.toList)

end EscapeKey.Text
