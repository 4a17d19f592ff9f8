/-! Readers take characters from the front of a text or fail. The pieces here are those that all
of TOML shares: blanks, comments and the ends of lines.
-/

namespace EscapeKey.Toml

/-- Takes characters from the front of a text, or fails. -/
abbrev Reader := StateT (List Char) Option

/-- The next character is `c`, which is taken. -/
def next? (c : Char) : Reader Bool := do
  match ← get with
  | d :: rest => if d = c then set rest; return true else return false
  | [] => return false

def expect (c : Char) : Reader Unit := do
  unless ← next? c do failure

/-- Takes the longest run of characters of a class. -/
def takeRun (p : Char → Bool) : Reader (List Char) := do
  let text ← get
  set (text.dropWhile p)
  return text.takeWhile p

/-- Takes characters of a class, exactly so many. -/
def takeExactly (n : Nat) (p : Char → Bool) : Reader (List Char) := do
  let text ← get
  let taken := text.take n
  unless taken.length = n && taken.all p do failure
  set (text.drop n)
  return taken

/-- Reads a part that may be missing. -/
def optionally {α : Type} (reader : Reader α) : Reader (Option α) :=
  some <$> reader <|> pure none

def isSpace (c : Char) : Bool :=
  c == ' ' || c == '\t'

/-- A character that may stand in a text as it is: no control character but the tab. -/
def isPlain (c : Char) : Bool :=
  c == '\t' || (0x20 ≤ c.toNat && c.toNat != 0x7F)

def spaces : Reader Unit :=
  discard (takeRun isSpace)

/-- Takes a line feed, with or without a carriage return in front. -/
def newline : Reader Unit := do
  match ← get with
  | '\n' :: rest => set rest
  | '\r' :: '\n' :: rest => set rest
  | _ => failure

/-- Takes a comment, which goes on to the end of its line. -/
def comment : Reader Unit := do
  expect '#'
  discard (takeRun isPlain)

/-- Takes what may stand behind a statement: blanks, a comment, and the end of the line or of the
text.
-/
def endOfLine : Reader Unit := do
  spaces
  discard (optionally comment)
  unless (← get).isEmpty do newline

/-- Takes blanks, comments and ends of lines, at most so many of them. -/
def skipLines : Nat → Reader Unit
  | 0 => pure ()
  | fuel + 1 => do
    spaces
    discard (optionally comment)
    match ← get with
    | '\n' :: rest | '\r' :: '\n' :: rest => set rest; skipLines fuel
    | _ => pure ()

/-- Takes all blanks, comments and ends of lines that follow. -/
def skipAllLines : Reader Unit := do
  skipLines (← get).length

end EscapeKey.Toml
